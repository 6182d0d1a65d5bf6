import LoxFront.Proofs.Segment.Join
import LoxFront.Proofs.Segment.Place

/-! # Texts scanned in their place

What a scan finds in a text that stands at some place, behind other text, without the token that
ends the source.  It is taken apart at the front: a segment that does not go on is found by itself
(`scanAt_segment`), and where the segments of two texts are those of the joined text, so is what is
found in them (`scanAt_append`).  Further behind the same is found, but for lines and offsets
(`scanAt_shift`).
-/

namespace LoxFront

/-! ## One scan behind another -/

namespace Scan

instance : Append Scan where
  append a b := ⟨a.tokens ++ b.tokens, a.faults ++ b.faults⟩

theorem append_def (a b : Scan) : a ++ b = ⟨a.tokens ++ b.tokens, a.faults ++ b.faults⟩ := rfl

theorem append_assoc (a b c : Scan) : a ++ b ++ c = a ++ (b ++ c) :=
  congrArg₂ Scan.mk (List.append_assoc ..) (List.append_assoc ..)

@[simp] theorem tokens_append (a b : Scan) : (a ++ b).tokens = a.tokens ++ b.tokens := rfl

@[simp] theorem faults_append (a b : Scan) : (a ++ b).faults = a.faults ++ b.faults := rfl

end Scan

/-- The tokens and faults that placed segments are. -/
def Placed.found (row : List Placed) : Scan where
  tokens := row.filterMap Placed.token?
  faults := row.filterMap Placed.fault?

theorem Placed.found_append (a b : List Placed) : found (a ++ b) = found a ++ found b :=
  congrArg₂ Scan.mk List.filterMap_append List.filterMap_append

/-- What is a token is no fault. -/
theorem Placed.found_of_token? {s : Placed} {t : Token} (isToken : s.token? = some t) :
    found [s] = ⟨[t], []⟩ := by
  have noFault : s.fault? = none := by
    obtain ⟨segment, place⟩ := s
    cases segment with
    | openString _ | stray _ => cases isToken
    | _ => rfl
  simp only [found, List.filterMap_cons, isToken, noFault, List.filterMap_nil]

def scanAt (p : Place) (text : List Char) : Scan :=
  Placed.found (Placed.layOut p (segments text))

theorem scan_tokens (source : String) :
    (scan source).tokens =
      (scanAt .start source.toList).tokens ++ [.endOfText (lastLine source)] := rfl

theorem scan_faults (source : String) :
    (scan source).faults = (scanAt .start source.toList).faults := rfl

theorem dropLast_tokens (source : String) :
    (scan source).tokens.dropLast = (scanAt .start source.toList).tokens :=
  List.dropLast_concat

@[simp] theorem scanAt_nil (p : Place) : scanAt p [] = ⟨[], []⟩ := by
  rw [scanAt, segments_nil]
  rfl

theorem scanAt_eq_append {text : List Char} {front behind : List Segment}
    (split : segments text = front ++ behind) (p : Place) :
    scanAt p text = Placed.found (Placed.layOut p front) ++
      Placed.found (Placed.layOut (p.after (front.flatMap Segment.text)) behind) := by
  rw [scanAt, split, Placed.layOut_append, Placed.found_append]

theorem scanAt_append {front behind : List Char}
    (apart : segments (front ++ behind) = segments front ++ segments behind) (p : Place) :
    scanAt p (front ++ behind) = scanAt p front ++ scanAt (p.after front) behind := by
  rw [scanAt_eq_append apart, flatMap_text_segments]
  rfl

theorem scanAt_segment {s : Segment} {rest : List Char} (wellFormed : s.WellFormed)
    (stops : s.goesOn rest = false) (p : Place) :
    scanAt p (s.text ++ rest) = Placed.found [⟨s, p⟩] ++ scanAt (p.after s.text) rest := by
  rw [scanAt, segments_append wellFormed stops]
  exact Placed.found_append [⟨s, p⟩] (Placed.layOut (p.after s.text) (segments rest))

/-- A separator is neither a token nor a fault. -/
theorem scanAt_separator {c : Char} (separator : isSeparator c = true) (p : Place)
    (rest : List Char) : scanAt p (c :: rest) = scanAt (p.after [c]) rest := by
  obtain rfl | blank := newline_or_isBlank separator
  · exact scanAt_segment (s := .newline) trivial rfl p
  · exact scanAt_segment (s := .blank c) blank rfl p

theorem scanAt_separators {gap : List Char} (separates : ∀ c ∈ gap, isSeparator c = true)
    (p : Place) (rest : List Char) : scanAt p (gap ++ rest) = scanAt (p.after gap) rest := by
  induction gap generalizing p with
  | nil => rfl
  | cons c gap ih =>
    obtain ⟨first, others⟩ := List.forall_mem_cons.1 separates
    rw [List.cons_append, scanAt_separator first, ih others, ← Place.after_append,
      List.singleton_append]

/-! ## The same text further behind -/

def Place.shift (bytes lines : Nat) (p : Place) : Place :=
  ⟨p.offset + bytes, p.line + lines⟩

def Token.shift (lines : Nat) (t : Token) : Token :=
  { t with line := t.line + lines }

def Fault.shift (bytes lines : Nat) (f : Fault) : Fault :=
  { f with line := f.line + lines, offset := f.offset + bytes }

def Scan.shift (bytes lines : Nat) (s : Scan) : Scan where
  tokens := s.tokens.map (Token.shift lines)
  faults := s.faults.map (Fault.shift bytes lines)

def Placed.shift (bytes lines : Nat) (s : Placed) : Placed :=
  { s with place := s.place.shift bytes lines }

theorem Place.after_shift (bytes lines : Nat) (p : Place) (text : List Char) :
    (p.shift bytes lines).after text = (p.after text).shift bytes lines := by
  simp only [after, shift, Nat.add_right_comm]

namespace Placed

theorem layOut_shift (bytes lines : Nat) (p : Place) (row : List Segment) :
    layOut (p.shift bytes lines) row = (layOut p row).map (shift bytes lines) := by
  induction row generalizing p with
  | nil => rfl
  | cons s row ih =>
    rw [layOut, Place.after_shift, ih]
    rfl

theorem token?_shift (bytes lines : Nat) (s : Placed) :
    (s.shift bytes lines).token? = s.token?.map (Token.shift lines) := by
  simp only [token?, Segment.token?, Option.map_map]
  rfl

theorem fault?_shift (bytes lines : Nat) (s : Placed) :
    (s.shift bytes lines).fault? = s.fault?.map (Fault.shift bytes lines) := by
  obtain ⟨segment, p⟩ := s
  cases segment with
  | openString body =>
    simp only [fault?, stop, shift, Place.after_shift, Option.map_some]
    rfl
  | _ => rfl

end Placed

theorem Placed.found_shift (bytes lines : Nat) (row : List Placed) :
    found (row.map (shift bytes lines)) = (found row).shift bytes lines := by
  rw [found, List.filterMap_map, List.filterMap_map, Scan.shift, found, List.map_filterMap,
    List.map_filterMap]
  exact congrArg₂ Scan.mk (List.filterMap_congr fun s _ => s.token?_shift bytes lines)
    (List.filterMap_congr fun s _ => s.fault?_shift bytes lines)

theorem scanAt_shift (bytes lines : Nat) (p : Place) (text : List Char) :
    scanAt (p.shift bytes lines) text = (scanAt p text).shift bytes lines := by
  rw [scanAt, Placed.layOut_shift, Placed.found_shift]
  rfl

end LoxFront
