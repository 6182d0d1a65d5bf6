/-! # Texts measured in bytes

A text is a list of characters, while positions in it are counted in the bytes of its UTF-8
form.  This module holds that measure and the two ways of cutting a text at a byte position.
Both are partial: a position inside a character, or past the end, names no cut.  The main
statement, `splitBytes?_eq_some_iff`, says that a cut at `n` is an append equation whose first
part has `n` bytes, so nothing else needs to be known about a cut.
-/

namespace LoxFront.Text

/-! ## The measure -/

/-- The number of bytes of the UTF-8 form of a text. -/
def byteLength (text : List Char) : Nat :=
  text.foldr (fun c bytes => c.utf8Size + bytes) 0

@[simp] theorem byteLength_nil : byteLength [] = 0 := rfl

@[simp] theorem byteLength_cons (c : Char) (text : List Char) :
    byteLength (c :: text) = c.utf8Size + byteLength text := rfl

@[simp] theorem byteLength_append (a b : List Char) :
    byteLength (a ++ b) = byteLength a + byteLength b := by
  induction a with
  | nil => simp
  | cons c a ih => simp [ih, Nat.add_assoc]

@[simp] theorem byteLength_eq_zero {text : List Char} : byteLength text = 0 ↔ text = [] := by
  cases text with
  | nil => simp
  | cons c text => simp [Nat.ne_of_gt (Char.utf8Size_pos c)]

@[simp] theorem byteLength_toList (s : String) : byteLength s.toList = s.utf8ByteSize := by
  have ofList : ∀ text, byteLength text = (String.ofList text).utf8ByteSize := by
    intro text
    induction text with
    | nil => simp
    | cons c text ih => rw [String.ofList_cons, String.utf8ByteSize_append, ← ih]; simp
  rw [ofList, String.ofList_toList]

/-! ## Cutting at a byte position -/

def splitBytes? : Nat → List Char → Option (List Char × List Char)
  | 0, text => some ([], text)
  | _ + 1, [] => none
  | n + 1, c :: text =>
      if c.utf8Size ≤ n + 1 then
        (splitBytes? (n + 1 - c.utf8Size) text).map fun (before, after) => (c :: before, after)
      else none

/-- A cut at `n` is exactly a way of writing the text as two parts of which the first has `n`
    bytes. -/
theorem splitBytes?_eq_some_iff {n : Nat} {text before after : List Char} :
    splitBytes? n text = some (before, after) ↔
      text = before ++ after ∧ byteLength before = n := by
  fun_induction splitBytes? n text generalizing before with
  | case1 text =>
    constructor
    · rintro ⟨⟩
      simp
    · rintro ⟨rfl, h⟩
      obtain rfl := byteLength_eq_zero.1 h
      rfl
  | case2 n =>
    constructor
    · rintro ⟨⟩
    · rintro ⟨h, hn⟩
      obtain ⟨rfl, rfl⟩ := List.nil_eq_append_iff.1 h
      simp at hn
  | case3 n c text hc ih =>
    constructor
    · intro h
      obtain ⟨⟨b, a⟩, hs, he⟩ := Option.map_eq_some_iff.1 h
      obtain ⟨rfl, rfl⟩ := Prod.mk.inj he
      obtain ⟨rfl, hb⟩ := ih.1 hs
      exact ⟨rfl, by rw [byteLength_cons, hb]; omega⟩
    · rintro ⟨h, hn⟩
      cases before with
      | nil => simp at hn
      | cons d before =>
        obtain ⟨rfl, rfl⟩ := List.cons.inj h
        have hb : byteLength before = n + 1 - c.utf8Size := by
          rw [byteLength_cons] at hn; omega
        exact Option.map_eq_some_iff.2 ⟨(before, after), ih.2 ⟨rfl, hb⟩, rfl⟩
  | case4 n c text hc =>
    constructor
    · rintro ⟨⟩
    · rintro ⟨h, hn⟩
      cases before with
      | nil => simp at hn
      | cons d before =>
        obtain ⟨rfl, rfl⟩ := List.cons.inj h
        rw [byteLength_cons] at hn
        omega

/-- The characters from byte `start` up to, not including, byte `stop`. -/
def sliceBytes? (start stop : Nat) (text : List Char) : Option (List Char) :=
  if start ≤ stop then do
    let (_, after) ← splitBytes? start text
    let (slice, _) ← splitBytes? (stop - start) after
    return slice
  else none

/-- A slice is exactly a middle part of the text that has the right number of bytes before it and
    in it. -/
theorem sliceBytes?_eq_some_iff {start stop : Nat} {text slice : List Char} :
    sliceBytes? start stop text = some slice ↔
      ∃ before after, text = before ++ slice ++ after ∧
        byteLength before = start ∧ start + byteLength slice = stop := by
  unfold sliceBytes?
  constructor
  · intro h
    split at h
    · obtain ⟨⟨before, rest⟩, hbefore, h⟩ := Option.bind_eq_some_iff.1 h
      obtain ⟨⟨middle, after⟩, hmiddle, h⟩ := Option.bind_eq_some_iff.1 h
      obtain ⟨rfl⟩ := h
      obtain ⟨rfl, rfl⟩ := splitBytes?_eq_some_iff.1 hbefore
      obtain ⟨rfl, hlength⟩ := splitBytes?_eq_some_iff.1 hmiddle
      exact ⟨before, after, by simp, rfl, by omega⟩
    · exact nomatch h
  · rintro ⟨before, after, rfl, rfl, rfl⟩
    have first : splitBytes? (byteLength before) (before ++ (slice ++ after)) =
        some (before, slice ++ after) :=
      splitBytes?_eq_some_iff.2 ⟨rfl, rfl⟩
    have second : splitBytes? (byteLength slice) (slice ++ after) = some (slice, after) :=
      splitBytes?_eq_some_iff.2 ⟨rfl, rfl⟩
    simp [first, second]

end LoxFront.Text
