import Courier.Proofs.Inbound.Intake

/-!
# The verdict on a stream that is fed to its end

A caller feeds chunks up to the first that fails, and otherwise asks the buffer at the end
(`readAll`). The payloads depend on the stream alone. The verdict does not: a refused length that
comes behind the last payload of the very last chunk is never reported, and the bytes that it left
pass for a torn frame (`readAll_of_cut`). An empty chunk at the end brings the missing report.
-/

namespace Courier

open Courier.Frame

namespace FrameBuffer

/-- Feed chunks one after the other up to the first that fails, and finish if none does. -/
def readAll (buffer : FrameBuffer) : List Bytes → List Bytes × Except Fault Unit
  | [] => ([], buffer.finish)
  | chunk :: later =>
    match buffer.feed chunk with
    | (.error fault, _) => ([], .error fault)
    | (.ok payloads, after) => (payloads ++ (after.readAll later).1, (after.readAll later).2)

/-- The verdict that what is left of a stream deserves: a refused length is reported as such, and
all other bytes belong to a torn frame. -/
def verdict (buffer : FrameBuffer) : Except Fault Unit :=
  match refused? buffer.limit buffer.bytes with
  | some length => .error (.tooLarge length buffer.limit)
  | none => buffer.finish

/-- The verdict is the one that receiving comes to where the stream ends. -/
theorem mapError_verdict (limit : Nat) (bytes : Bytes) :
    (verdict ⟨limit, (parse limit bytes).rest⟩).mapError Fault.failure =
      Inbound.verdict limit bytes .streamEnd := by
  simp only [verdict, Inbound.verdict]
  cases refused? limit (parse limit bytes).rest with
  | none => exact Inbound.mapError_finish _
  | some length => rfl

/-- Where no length is refused, finishing gives the verdict. -/
theorem verdict_eq_finish {limit : Nat} {bytes : Bytes} (h : refused? limit bytes = none) :
    verdict ⟨limit, bytes⟩ = finish ⟨limit, bytes⟩ := by
  simp only [verdict, h]

/-- A refused length is the verdict, whatever follows it. -/
theorem verdict_of_refused? {limit length : Nat} {bytes : Bytes}
    (h : refused? limit bytes = some length) (more : Bytes) :
    verdict ⟨limit, bytes ++ more⟩ = .error (.tooLarge length limit) := by
  simp only [verdict, refused?_append h more]

/-- The first chunk that is fed behind a refused length brings its report. -/
theorem readAll_of_refused? {limit length : Nat} {bytes : Bytes} {chunks : List Bytes}
    (h : refused? limit bytes = some length) (hchunks : chunks ≠ []) :
    (FrameBuffer.mk limit bytes).readAll chunks = ([], .error (.tooLarge length limit)) := by
  obtain ⟨chunk, later, rfl⟩ := List.exists_cons_of_ne_nil hchunks
  have hmore := refused?_append h chunk
  rw [readAll, feed_eq_parse]
  simp only [parse_of_isStuck (isStuck_of_refused? hmore), hmore]

/-- Chunks that are fed to a buffer from which nothing can be taken hand out what the stream holds.
The verdict is the one that its rest deserves, except where the last chunk completes a payload: then
nothing is fed behind that payload, and the buffer only counts the bytes that are left. -/
theorem readAll_snoc (limit : Nat) (earlier : List Bytes) (last : Bytes) {bytes : Bytes}
    (hstuck : IsStuck limit bytes) (hnone : refused? limit bytes = none) :
    (FrameBuffer.mk limit bytes).readAll (earlier ++ [last]) =
      ((parse limit (bytes ++ earlier.flatten ++ last)).payloads,
        if (parse limit (bytes ++ earlier.flatten)).payloads =
            (parse limit (bytes ++ earlier.flatten ++ last)).payloads
        then verdict ⟨limit, (parse limit (bytes ++ earlier.flatten ++ last)).rest⟩
        else finish ⟨limit, (parse limit (bytes ++ earlier.flatten ++ last)).rest⟩) := by
  induction earlier generalizing bytes with
  | nil =>
    rw [List.nil_append, List.flatten_nil, List.append_nil, readAll, feed_eq_parse,
      parse_of_isStuck hstuck]
    generalize parse limit (bytes ++ last) = whole
    obtain ⟨payloads, rest⟩ := whole
    cases hrefused : refused? limit rest with
    | none => cases payloads <;> simp [readAll, verdict_eq_finish hrefused]
    | some length =>
      have hverdict := verdict_of_refused? hrefused []
      rw [List.append_nil] at hverdict
      cases payloads <;> simp [readAll, hverdict]
  | cons chunk earlier ih =>
    have hsplit : bytes ++ (chunk :: earlier).flatten = bytes ++ chunk ++ earlier.flatten := by
      rw [List.flatten_cons, List.append_assoc]
    rw [List.cons_append, hsplit, readAll, feed_eq_parse, parse_append limit (bytes ++ chunk),
      List.append_assoc (bytes ++ chunk), parse_append limit (bytes ++ chunk)]
    have hrest := (parse_spec limit (bytes ++ chunk)).2.2
    generalize parse limit (bytes ++ chunk) = first at hrest
    obtain ⟨payloads, rest⟩ := first
    dsimp only at hrest ⊢
    cases hrefused : refused? limit rest with
    | none =>
      have hlater := ih hrest hrefused
      rw [List.append_assoc] at hlater
      simp only [List.append_cancel_left_eq]
      rw [hlater]
    | some length =>
      have hstays (more : Bytes) : parse limit (rest ++ more) = ⟨[], rest ++ more⟩ :=
        parse_of_isStuck (isStuck_of_refused? (refused?_append hrefused more))
      rw [hstays, hstays, if_pos rfl, verdict_of_refused? hrefused, List.append_nil]
      cases payloads with
      | nil => rfl
      | cons payload more =>
        simp only [readAll_of_refused? hrefused (List.append_ne_nil_of_right_ne_nil earlier
          (List.cons_ne_nil last [])), List.append_nil]

/-- The same for any chunks that are fed to a new buffer, none included. -/
theorem readAll_empty (limit : Nat) (chunks : List Bytes) :
    (empty limit).readAll chunks =
      ((parse limit chunks.flatten).payloads,
        if (parse limit chunks.dropLast.flatten).payloads = (parse limit chunks.flatten).payloads
        then verdict ⟨limit, (parse limit chunks.flatten).rest⟩
        else finish ⟨limit, (parse limit chunks.flatten).rest⟩) := by
  rcases List.eq_nil_or_concat chunks with rfl | ⟨earlier, last, rfl⟩
  · rw [List.dropLast_nil, if_pos rfl, List.flatten_nil, parse_of_isStuck (isStuck_nil limit)]
    rfl
  · have hwhole : (earlier ++ [last]).flatten = [] ++ earlier.flatten ++ last := by simp
    rw [List.concat_eq_append, List.dropLast_concat, hwhole]
    exact readAll_snoc limit earlier last (isStuck_nil limit) rfl

/-- However a stream is cut, feeding its chunks and finishing hands out the payloads that it holds,
and a length that is refused stays behind the last of them.

The verdict is the one that receiving the stream comes to, unless the last chunk completes a payload
in front of a refused length: that length is then not reported, and its bytes are counted as those of
a torn frame. So all cuttings agree on a stream without a refused length, and an empty chunk that is
fed last makes them agree on every stream. -/
theorem readAll_of_cut (limit : Nat) (chunks : List Bytes) :
    (empty limit).readAll chunks =
        ((parse limit chunks.flatten).payloads,
          if (parse limit chunks.dropLast.flatten).payloads = (parse limit chunks.flatten).payloads
          then verdict ⟨limit, (parse limit chunks.flatten).rest⟩
          else finish ⟨limit, (parse limit chunks.flatten).rest⟩) ∧
      (verdict ⟨limit, (parse limit chunks.flatten).rest⟩).mapError Fault.failure =
        Inbound.verdict limit chunks.flatten .streamEnd ∧
      (∀ others : List Bytes, others.flatten = chunks.flatten →
        ((empty limit).readAll others).1 = ((empty limit).readAll chunks).1 ∧
          (refused? limit (parse limit chunks.flatten).rest = none →
            (empty limit).readAll others = (empty limit).readAll chunks)) ∧
      (empty limit).readAll (chunks ++ [[]]) =
        ((parse limit chunks.flatten).payloads,
          verdict ⟨limit, (parse limit chunks.flatten).rest⟩) := by
  refine ⟨readAll_empty limit chunks, mapError_verdict limit chunks.flatten, ?_, ?_⟩
  · intro others hothers
    rw [readAll_empty limit others, readAll_empty limit chunks, hothers]
    refine ⟨rfl, ?_⟩
    intro haccepted
    rw [verdict_eq_finish haccepted, ite_self, ite_self]
  · have hwhole : (chunks ++ [[]]).flatten = chunks.flatten := by simp
    rw [readAll_empty, List.dropLast_concat, hwhole, if_pos rfl]

/-- Under a limit of sixteen bytes, a stream whose refused length comes in a chunk of its own, or in
front of an empty one, is refused for that length. -/
theorem readAll_of_cut_refused_length :
    (empty 16).readAll [[0, 0, 0, 1, 65], [0, 0, 1, 0]] = ([[65]], .error (.tooLarge 256 16)) ∧
      (empty 16).readAll [[0, 0, 0, 1, 65, 0, 0, 1, 0], []] =
        ([[65]], .error (.tooLarge 256 16)) := by
  have hwhole : parse 16 [0, 0, 0, 1, 65, 0, 0, 1, 0] = ⟨[[65]], [0, 0, 1, 0]⟩ := by decide +kernel
  have hfirst : parse 16 [0, 0, 0, 1, 65] = ⟨[[65]], []⟩ := by decide +kernel
  have hrefused : refused? 16 [0, 0, 1, 0] = some 256 := by decide +kernel
  have hverdict : verdict ⟨16, [0, 0, 1, 0]⟩ = .error (.tooLarge 256 16) :=
    verdict_of_refused? hrefused []
  obtain ⟨hcut, -⟩ := readAll_of_cut 16 [[0, 0, 0, 1, 65], [0, 0, 1, 0]]
  obtain ⟨-, -, -, hclosed⟩ := readAll_of_cut 16 [[0, 0, 0, 1, 65, 0, 0, 1, 0]]
  simp only [List.flatten_cons, List.dropLast, List.flatten_nil, List.append_nil,
    List.cons_append, List.nil_append, hwhole, hfirst, if_true, hverdict] at hcut
  simp only [List.flatten_singleton, hwhole, hverdict] at hclosed
  exact ⟨hcut, hclosed⟩

/-- Two cuttings of one stream into chunks that are not empty come to two verdicts: one reports the
refused length, the other counts its bytes as those of a torn frame. -/
theorem readAll_differs_by_cut :
    [[0, 0, 0, 1, 65], [0, 0, 1, 0]].flatten = ([[0, 0, 0, 1, 65, 0, 0, 1, 0]].flatten : Bytes) ∧
      refused? 16 (parse 16 [0, 0, 0, 1, 65, 0, 0, 1, 0]).rest = some 256 ∧
      (empty 16).readAll [[0, 0, 0, 1, 65], [0, 0, 1, 0]] = ([[65]], .error (.tooLarge 256 16)) ∧
      (empty 16).readAll [[0, 0, 0, 1, 65, 0, 0, 1, 0]] = ([[65]], .error (.incomplete 4)) := by
  have hwhole : parse 16 [0, 0, 0, 1, 65, 0, 0, 1, 0] = ⟨[[65]], [0, 0, 1, 0]⟩ := by decide +kernel
  have hfirst : parse 16 [0, 0, 0, 1, 65] = ⟨[[65]], []⟩ := by decide +kernel
  have hnothing : parse 16 [] = ⟨[], []⟩ := parse_of_isStuck (isStuck_nil 16)
  have hrefused : refused? 16 [0, 0, 1, 0] = some 256 := by decide +kernel
  have hverdict : verdict ⟨16, [0, 0, 1, 0]⟩ = .error (.tooLarge 256 16) :=
    verdict_of_refused? hrefused []
  have hwith := readAll_empty 16 [[0, 0, 0, 1, 65], [0, 0, 1, 0]]
  have hbehind := readAll_empty 16 [[0, 0, 0, 1, 65, 0, 0, 1, 0]]
  simp only [List.flatten_cons, List.dropLast, List.flatten_nil, List.append_nil,
    List.cons_append, List.nil_append, hwhole, hfirst, if_true, hverdict] at hwith
  simp only [List.flatten_cons, List.dropLast, List.flatten_nil, List.append_nil, hwhole,
    hnothing] at hbehind
  exact ⟨rfl, by simp only [hwhole, hrefused], hwith, hbehind⟩

end FrameBuffer

end Courier
