import EventCamera.Bytes.Source
import Mathlib.Data.List.TakeWhile

/-!
# What reading takes from a source

Reading moves bytes from a source to its reader. It neither drops nor repeats a byte, wherever the
source is cut into segments and whatever moments lie between them. Three kinds of sources are told
apart by what those moments are: in a faultless source empty reads, of which the first is taken for
the end, and interruptions, which a read does not show; in a steady source only interruptions; in a
plain source none at all.

## Main definitions

* `Source.reach` — the bytes up to the first empty read
* `Source.IsFaultless`, `Source.IsSteady`, `Source.IsPlain` — sources without failures, without
  pauses either, and without interruptions either
* `Source.lineOf`, `Source.afterLine` — the bytes up to and with a line feed, and those behind it

## Main results

* `content_of_read`, `content_of_readLine`, … — what a read gives is what it takes
* `feed_of_readLine` — a line has at most one line feed, at its end
* `IsFaultless.read` — a faultless source gives bytes until there are none within reach
* `IsSteady.readLine` — a steady source gives the lines of its content
-/

namespace EventCamera.Source

/-! ### Any source -/

theorem content_of_read {n : Nat} {src rest : Source} {bs : List UInt8}
    (h : src.read n = (.ok bs, rest)) : src.content = bs ++ rest.content := by
  fun_induction read n src with
  | case1 => cases h; rfl
  | case2 src ih => exact ih h
  | case3 b bs' src =>
    cases h
    simp [← List.append_assoc]
  | case4 => cases h
  | case5 src ih => exact ih h
  | case6 => cases h; rfl

/-- A read that fails takes nothing. -/
theorem content_of_read_error {n : Nat} {src rest : Source} {message : String}
    (h : src.read n = (.error message, rest)) : rest.content = src.content := by
  fun_induction read n src with
  | case1 => cases h
  | case2 src ih => exact ih h
  | case3 b bs src => cases h
  | case4 => cases h; rfl
  | case5 src ih => exact ih h
  | case6 => cases h

/-- Peeking takes nothing. -/
theorem content_of_peek {src rest : Source} {result : Except ReadFault (List UInt8)}
    (h : src.peek = (result, rest)) : rest.content = src.content := by
  fun_induction peek src with
  | case1 => cases h; rfl
  | case2 src ih => exact ih h
  | case3 => cases h; rfl
  | case4 => cases h; rfl
  | case5 => cases h; rfl
  | case6 => cases h; rfl

theorem feed_not_mem_of_dropWhile {bs : List UInt8} (h : bs.dropWhile (· != lineFeed) = []) :
    lineFeed ∉ bs := by
  intro hmem
  simpa using List.dropWhile_eq_nil_iff.1 h _ hmem

/-- A segment in which a line ends is cut at its first line feed. -/
theorem cut_of_dropWhile {bs after : List UInt8} {b : UInt8}
    (h : bs.dropWhile (· != lineFeed) = b :: after) :
    ∃ front, bs = front ++ lineFeed :: after ∧ bs.takeWhile (· != lineFeed) = front ∧
      b = lineFeed ∧ lineFeed ∉ front := by
  have hfeed : b = lineFeed := by
    have hhead := List.head?_dropWhile_not (· != lineFeed) bs
    rw [h] at hhead
    simpa using hhead
  subst hfeed
  refine ⟨_, ?_, rfl, rfl, ?_⟩
  · rw [← h, List.takeWhile_append_dropWhile]
  · intro hmem
    simpa using List.mem_takeWhile_imp hmem

/-- The bytes of a line are taken from the front, behind those taken before. -/
theorem content_of_takeLine {taken : Array UInt8} {src rest : Source} {line : List UInt8}
    (h : src.takeLine taken = (.ok line, rest)) :
    taken.toList ++ src.content = line ++ rest.content := by
  fun_induction takeLine taken src with
  | case1 => cases h; rfl
  | case2 taken bs src hb ih =>
    rw [← ih h]
    simp
  | case3 taken bs src b after hb =>
    cases h
    -- The segment is cut at the line feed, and its rest stays in the source.
    obtain ⟨front, rfl, hfront, rfl, -⟩ := cut_of_dropWhile hb
    rw [hfront]
    simp
  | case4 => cases h
  | case5 taken src ih => exact ih h
  | case6 => cases h; rfl

theorem content_of_readLine {src rest : Source} {line : List UInt8}
    (h : src.readLine = (.ok line, rest)) : src.content = line ++ rest.content :=
  content_of_takeLine h

/-- A line has at most one line feed, at its end. -/
theorem feed_of_takeLine {taken : Array UInt8} {src rest : Source} {line : List UInt8}
    (htaken : lineFeed ∉ taken.toList) (h : src.takeLine taken = (.ok line, rest)) :
    ∃ front, lineFeed ∉ front ∧ (line = front ∨ line = front ++ [lineFeed]) := by
  fun_induction takeLine taken src with
  | case1 =>
    cases h
    exact ⟨_, htaken, .inl rfl⟩
  | case2 taken bs src hb ih =>
    refine ih ?_ h
    rw [Array.toList_appendList, List.mem_append, not_or]
    exact ⟨htaken, feed_not_mem_of_dropWhile hb⟩
  | case3 taken bs src b after hb =>
    cases h
    obtain ⟨front, -, hfront, rfl, hfeed⟩ := cut_of_dropWhile hb
    refine ⟨taken.toList ++ front, ?_, .inr ?_⟩
    · rw [List.mem_append, not_or]
      exact ⟨htaken, hfeed⟩
    · simp [hfront]
  | case4 => cases h
  | case5 taken src ih => exact ih htaken h
  | case6 =>
    cases h
    exact ⟨_, htaken, .inl rfl⟩

theorem feed_of_readLine {src rest : Source} {line : List UInt8}
    (h : src.readLine = (.ok line, rest)) :
    ∃ front, lineFeed ∉ front ∧ (line = front ∨ line = front ++ [lineFeed]) := by
  have hnone : lineFeed ∉ (#[] : Array UInt8).toList := List.not_mem_nil
  exact feed_of_takeLine hnone h

/-! ### Faultless, steady and plain sources -/

/-- The bytes up to the first empty read, which is taken for the end of the source. -/
def reach : Source → List UInt8
  | [] => []
  | .bytes bs :: src => bs ++ reach src
  | .pause :: _ => []
  | _ :: src => reach src

/-- A faultless source gives its bytes without a failure, though it may come back empty in
between. -/
def IsFaultless (src : Source) : Prop := ∀ seg ∈ src, ∀ message, seg ≠ .failure message

/-- A steady source gives its bytes with at most interruptions in between. -/
def IsSteady (src : Source) : Prop := ∀ seg ∈ src, seg = .interruption ∨ ∃ bs, seg = .bytes bs

/-- A plain source gives its bytes with nothing in between. -/
def IsPlain (src : Source) : Prop := ∀ seg ∈ src, ∃ bs, seg = .bytes bs

theorem IsSteady.isFaultless {src : Source} (h : src.IsSteady) : src.IsFaultless := by
  rintro seg hseg message rfl
  rcases h _ hseg with h | ⟨_, h⟩ <;> cases h

theorem IsPlain.isSteady {src : Source} (h : src.IsPlain) : src.IsSteady := by
  intro seg hseg
  exact .inr (h seg hseg)

theorem IsSteady.tail {seg : Segment} {src : Source} (h : IsSteady (seg :: src)) :
    src.IsSteady := by
  intro s hs
  exact h s (List.mem_cons_of_mem _ hs)

theorem IsPlain.tail {seg : Segment} {src : Source} (h : IsPlain (seg :: src)) : src.IsPlain := by
  intro s hs
  exact h s (List.mem_cons_of_mem _ hs)

theorem IsPlain.cons_bytes {src : Source} (h : src.IsPlain) (bs : List UInt8) :
    IsPlain (.bytes bs :: src) := by
  intro seg hseg
  rcases List.mem_cons.1 hseg with rfl | hseg
  · exact ⟨bs, rfl⟩
  · exact h seg hseg

theorem IsSteady.cons_bytes {src : Source} (h : src.IsSteady) (bs : List UInt8) :
    IsSteady (.bytes bs :: src) := by
  intro seg hseg
  rcases List.mem_cons.1 hseg with rfl | hseg
  · exact .inr ⟨bs, rfl⟩
  · exact h seg hseg

theorem IsFaultless.tail {seg : Segment} {src : Source} (h : IsFaultless (seg :: src)) :
    src.IsFaultless := by
  intro s hs
  exact h s (List.mem_cons_of_mem _ hs)

theorem IsFaultless.cons_bytes {src : Source} (h : src.IsFaultless) (bs : List UInt8) :
    IsFaultless (.bytes bs :: src) := by
  intro seg hseg
  rcases List.mem_cons.1 hseg with rfl | hseg
  · intro message
    exact nofun
  · exact h seg hseg

/-- Bytes that are given in several parts. -/
theorem isPlain_map_bytes (parts : List (List UInt8)) : IsPlain (parts.map .bytes) := by
  intro seg hseg
  obtain ⟨bs, -, rfl⟩ := List.mem_map.1 hseg
  exact ⟨bs, rfl⟩

theorem content_map_bytes (parts : List (List UInt8)) :
    content (parts.map .bytes) = parts.flatten := by
  induction parts with
  | nil => rfl
  | cons bs parts ih => rw [List.map_cons, content_bytes, ih, List.flatten_cons]

/-- All bytes of a steady source are within reach. -/
theorem IsSteady.reach_eq {src : Source} (h : src.IsSteady) : src.reach = src.content := by
  induction src with
  | nil => rfl
  | cons seg src ih =>
    rcases h seg List.mem_cons_self with rfl | ⟨bs, rfl⟩
    · exact ih h.tail
    · rw [reach, content, ih h.tail]

/-- A faultless source gives bytes as long as there are any within reach, and stays faultless. -/
theorem IsFaultless.read {n : Nat} {src : Source} (h : src.IsFaultless) (hn : 0 < n) :
    ∃ bs rest, src.read n = (.ok bs, rest) ∧ rest.IsFaultless ∧
      (bs = [] → src.reach = []) ∧ (bs ≠ [] → src.reach = bs ++ rest.reach) := by
  fun_induction Source.read n src with
  | case1 => exact ⟨[], [], rfl, h, fun _ => rfl, fun hbs => absurd rfl hbs⟩
  | case2 src ih => exact ih h.tail
  | case3 b bs src =>
    refine ⟨_, _, rfl, h.tail.cons_bytes _, ?_, ?_⟩
    · -- At least the first byte of the segment is given.
      intro hnil
      obtain ⟨n, rfl⟩ := Nat.exists_eq_add_of_lt hn
      simp at hnil
    · intro _
      rw [reach, reach, ← List.append_assoc, List.take_append_drop]
  | case4 message src => exact absurd rfl (h _ List.mem_cons_self message)
  | case5 src ih => exact ih h.tail
  | case6 src => exact ⟨[], src, rfl, h.tail, fun _ => rfl, fun hbs => absurd rfl hbs⟩

/-- Peeking leaves a faultless source faultless. -/
theorem IsFaultless.of_peek {src rest : Source} {result : Except ReadFault (List UInt8)}
    (hs : src.IsFaultless) (h : src.peek = (result, rest)) : rest.IsFaultless := by
  fun_induction Source.peek src with
  | case1 => cases h; exact hs
  | case2 src ih => exact ih hs.tail h
  | case3 => cases h; exact hs
  | case4 => cases h; exact hs.tail
  | case5 => cases h; exact hs.tail
  | case6 => cases h; exact hs.tail

theorem IsFaultless.of_takeLine {src rest : Source} {taken : Array UInt8}
    {result : Except String (List UInt8)} (hs : src.IsFaultless)
    (h : src.takeLine taken = (result, rest)) : rest.IsFaultless := by
  fun_induction Source.takeLine taken src with
  | case1 => cases h; exact hs
  | case2 taken bs src _ ih => exact ih hs.tail h
  | case3 taken bs src b after _ => cases h; exact hs.tail.cons_bytes after
  | case4 => cases h; exact hs.tail
  | case5 taken src ih => exact ih hs.tail h
  | case6 => cases h; exact hs.tail

theorem IsFaultless.of_readLine {src rest : Source} {result : Except String (List UInt8)}
    (hs : src.IsFaultless) (h : src.readLine = (result, rest)) : rest.IsFaultless :=
  hs.of_takeLine h

/-- A plain source shows the first byte that is left. -/
theorem IsPlain.peek {src : Source} (h : src.IsPlain) :
    ∃ bs rest, src.peek = (.ok bs, rest) ∧ rest.IsPlain ∧ bs.head? = src.content.head? := by
  fun_induction Source.peek src with
  | case1 => exact ⟨[], [], rfl, h, rfl⟩
  | case2 src ih => exact ih h.tail
  | case3 b bs src => exact ⟨_, _, rfl, h, rfl⟩
  | case4 message src => obtain ⟨_, h⟩ := h _ List.mem_cons_self; cases h
  | case5 src => obtain ⟨_, h⟩ := h _ List.mem_cons_self; cases h
  | case6 src => obtain ⟨_, h⟩ := h _ List.mem_cons_self; cases h

/-- The bytes up to and with the first line feed. -/
def lineOf (bs : List UInt8) : List UInt8 :=
  bs.takeWhile (· != lineFeed) ++ (bs.dropWhile (· != lineFeed)).take 1

/-- The bytes behind the first line feed. -/
def afterLine (bs : List UInt8) : List UInt8 := (bs.dropWhile (· != lineFeed)).drop 1

theorem length_afterLine_lt {bs : List UInt8} (h : bs ≠ []) :
    (afterLine bs).length < bs.length := by
  have := (List.dropWhile_suffix (l := bs) (· != lineFeed)).length_le
  have := List.length_pos_iff.2 h
  rw [afterLine, List.length_drop]
  omega

/-- Without a line feed, all of some bytes are one line. -/
theorem lineOf_of_not_mem {bs : List UInt8} (h : lineFeed ∉ bs) :
    lineOf bs = bs ∧ afterLine bs = [] := by
  have hall : ∀ b ∈ bs, (b != lineFeed) = true := by
    intro b hb
    rw [bne_iff_ne]
    rintro rfl
    exact h hb
  rw [lineOf, afterLine, List.takeWhile_eq_self_iff.2 hall, List.dropWhile_eq_nil_iff.2 hall]
  exact ⟨List.append_nil bs, rfl⟩

theorem lineOf_append {bs : List UInt8} (h : lineFeed ∉ bs) (more : List UInt8) :
    lineOf (bs ++ lineFeed :: more) = bs ++ [lineFeed] ∧
      afterLine (bs ++ lineFeed :: more) = more := by
  have hall : ∀ b ∈ bs, (b != lineFeed) = true := by
    intro b hb
    rw [bne_iff_ne]
    rintro rfl
    exact h hb
  simp [lineOf, afterLine, List.takeWhile_append_of_pos hall, List.dropWhile_append_of_pos hall]

/-- A line goes on over the border of segments and over interruptions. -/
private theorem IsSteady.takeLine {src : Source} (h : src.IsSteady) (taken : Array UInt8) :
    ∃ rest, src.takeLine taken = (.ok (taken.toList ++ lineOf src.content), rest) ∧
      rest.IsSteady ∧ rest.content = afterLine src.content := by
  fun_induction Source.takeLine taken src with
  | case1 taken => exact ⟨[], by simp [lineOf], h, rfl⟩
  | case2 taken bs src hb ih =>
    obtain ⟨rest, hr, hp, hc⟩ := ih h.tail
    -- Without a line feed in the segment, the line takes all of it.
    have hall : ∀ b ∈ bs, (b != lineFeed) = true := List.dropWhile_eq_nil_iff.1 hb
    refine ⟨rest, ?_, hp, ?_⟩
    · rw [hr]
      simp [lineOf, List.takeWhile_append_of_pos hall, List.dropWhile_append_of_pos hall]
    · rw [hc]
      simp [afterLine, List.dropWhile_append_of_pos hall]
  | case3 taken bs src b rest hb =>
    -- With one, it ends within the segment, whatever follows.
    obtain ⟨front, rfl, hfront, rfl, hfeed⟩ := cut_of_dropWhile hb
    obtain ⟨hline, hafter⟩ := lineOf_append hfeed (rest ++ content src)
    rw [content_bytes, List.append_assoc, List.cons_append, hline, hafter, hfront]
    exact ⟨.bytes rest :: src, by simp, h.tail.cons_bytes rest, rfl⟩
  | case4 taken message src => exact absurd rfl (h.isFaultless _ List.mem_cons_self message)
  | case5 taken src ih => exact ih h.tail
  | case6 taken src => rcases h _ List.mem_cons_self with h | ⟨_, h⟩ <;> cases h

/-- A steady source gives the first line of its content. -/
theorem IsSteady.readLine {src : Source} (h : src.IsSteady) :
    ∃ rest, src.readLine = (.ok (lineOf src.content), rest) ∧
      rest.IsSteady ∧ rest.content = afterLine src.content := by
  obtain ⟨rest, hr, hrest⟩ := h.takeLine #[]
  exact ⟨rest, by simpa [Source.readLine] using hr, hrest⟩

private theorem IsPlain.of_takeLine {src rest : Source} {taken : Array UInt8}
    {result : Except String (List UInt8)} (hs : src.IsPlain)
    (h : src.takeLine taken = (result, rest)) : rest.IsPlain := by
  fun_induction Source.takeLine taken src with
  | case1 => cases h; exact hs
  | case2 taken bs src _ ih => exact ih hs.tail h
  | case3 taken bs src b after _ => cases h; exact hs.tail.cons_bytes after
  | case4 => cases h; exact hs.tail
  | case5 taken src ih => exact ih hs.tail h
  | case6 => cases h; exact hs.tail

/-- A plain source does so, and stays plain. -/
theorem IsPlain.readLine {src : Source} (h : src.IsPlain) :
    ∃ rest, src.readLine = (.ok (lineOf src.content), rest) ∧
      rest.IsPlain ∧ rest.content = afterLine src.content := by
  obtain ⟨rest, hr, -, hcontent⟩ := h.isSteady.readLine
  exact ⟨rest, hr, h.of_takeLine hr, hcontent⟩

end EventCamera.Source
