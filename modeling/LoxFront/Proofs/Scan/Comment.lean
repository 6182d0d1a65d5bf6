import LoxFront.Proofs.Scan.Join
import LoxFront.Proofs.Scan.Recover

/-! # What comments say

Two slashes behind a text whose strings are closed open a comment, whatever the text ends in: a
slash or a comment at its end takes them in, and every other segment stops in front of them
(`exists_comment_segments`).  A scan finds nothing in a comment, so what a comment says can only
move what stands behind its line, and as it holds no LF it moves it by its bytes alone
(`scan_comment`).
-/

namespace LoxFront

open Text (byteLength newlines)

namespace Segment

/-! ## Two slashes behind a segment -/

/-- A segment looks at a slash behind it, and not at what follows the slash. -/
theorem goesOn_slash (s : Segment) (more : List Char) :
    s.goesOn ('/' :: more) = s.goesOn ['/'] := by
  cases s with
  | numeral n => simp [goesOn, Numeral.goesOn, Numeral.opensFraction]
  | _ => rfl

/-- A segment that goes on into a slash becomes a comment with a second one. -/
theorem exists_comment_of_goesOn {s : Segment} (wellFormed : s.WellFormed)
    (closed : s.isOpen = false) (goesOn : s.goesOn ['/'] = true) :
    ∃ body, '\n' ∉ body ∧ s.text ++ ['/', '/'] = '/' :: '/' :: body := by
  cases s with
  | comment body =>
    refine ⟨body ++ ['/', '/'], ?_, rfl⟩
    have oneLine : '\n' ∉ body := wellFormed
    simp [oneLine]
  | punct p =>
    cases p with
    | slash => exact ⟨['/'], by decide, rfl⟩
    | _ => exact absurd goesOn Bool.false_ne_true
  | numeral n => simp [Segment.goesOn, Numeral.goesOn, Numeral.opensFraction] at goesOn
  | openString body => exact absurd closed.symm Bool.false_ne_true
  | _ => exact absurd goesOn Bool.false_ne_true

end Segment

/-- Whether a text is the end of a line and what follows, or nothing. -/
def EndsLine (rest : List Char) : Prop :=
  rest.head?.any (· != '\n') = false

theorem segments_comment {body rest : List Char} (oneLine : '\n' ∉ body) (ends : EndsLine rest) :
    segments ('/' :: '/' :: (body ++ rest)) = .comment body :: segments rest :=
  segments_append (s := .comment body) oneLine ends

/-- Two slashes behind a text with closed strings open a comment.  It may have begun in the text,
    but what is said behind the slashes belongs to it up to the end of the line. -/
theorem exists_comment_segments {text : List Char}
    (closed : ∀ s ∈ segments text, s.isOpen = false) :
    ∃ front begun, front.flatMap Segment.text ++ '/' :: '/' :: begun = text ++ ['/', '/'] ∧
      ∀ said rest, '\n' ∉ said → EndsLine rest →
        segments (text ++ '/' :: '/' :: (said ++ rest)) =
          front ++ .comment (begun ++ said) :: segments rest := by
  induction text using segments_induction with
  | nil => exact ⟨[], [], rfl, fun said rest oneLine ends => segments_comment oneLine ends⟩
  | cons s behind wellFormed stops ih =>
    rw [segments_append wellFormed stops] at closed
    obtain ⟨first, others⟩ := List.forall_mem_cons.1 closed
    by_cases takes : behind = [] ∧ s.goesOn ['/'] = true
    · obtain ⟨rfl, goesOn⟩ := takes
      obtain ⟨begun, oneLine, spelled⟩ :=
        Segment.exists_comment_of_goesOn wellFormed first goesOn
      refine ⟨[], begun, by rw [List.append_nil, spelled]; rfl, ?_⟩
      intro said rest inside ends
      have joined : s.text ++ [] ++ '/' :: '/' :: (said ++ rest) =
          '/' :: '/' :: (begun ++ said ++ rest) :=
        calc s.text ++ [] ++ '/' :: '/' :: (said ++ rest)
            = s.text ++ ['/', '/'] ++ (said ++ rest) := by
              rw [List.append_nil, List.append_assoc]
              rfl
          _ = '/' :: '/' :: (begun ++ said ++ rest) := by
              rw [spelled, List.cons_append, List.cons_append, List.append_assoc]
      rw [joined, segments_comment (by simp [oneLine, inside]) ends]
      rfl
    · obtain ⟨front, begun, spelled, split⟩ := ih others
      refine ⟨s :: front, begun, ?_, ?_⟩
      · rw [List.flatMap_cons, List.append_assoc, spelled, List.append_assoc]
      · intro said rest oneLine ends
        have alone : behind = [] → s.goesOn ('/' :: '/' :: (said ++ rest)) = false := by
          intro last
          rw [Segment.goesOn_slash, ← Bool.not_eq_true]
          exact fun goesOn => takes ⟨last, goesOn⟩
        have stays := Segment.goesOn_append_cons stops alone rfl
        rw [List.append_assoc, segments_append wellFormed stays, split said rest oneLine ends,
          List.cons_append]

/-! ## Scans of texts with a comment -/

theorem scanAt_comment {text : List Char} (closed : ∀ s ∈ segments text, s.isOpen = false)
    {said rest : List Char} (oneLine : '\n' ∉ said) (ends : EndsLine rest) (p : Place) :
    scanAt p (text ++ '/' :: '/' :: (said ++ rest)) =
      scanAt p (text ++ ['/', '/']) ++ scanAt (p.after (text ++ '/' :: '/' :: said)) rest := by
  obtain ⟨front, begun, spelled, split⟩ := exists_comment_segments closed
  -- A comment is neither a token nor a fault.
  have found : ∀ (q : Place) (body : List Char) (row : List Segment),
      Placed.found (Placed.layOut q (.comment body :: row)) =
        Placed.found (Placed.layOut (q.after ('/' :: '/' :: body)) row) := fun _ _ _ => rfl
  have slashes : scanAt p (text ++ ['/', '/']) = Placed.found (Placed.layOut p front) := by
    have nothing := split [] [] List.not_mem_nil rfl
    rw [List.append_nil, List.append_nil] at nothing
    rw [scanAt_eq_append nothing, found, segments_nil]
    exact congrArg₂ Scan.mk (List.append_nil _) (List.append_nil _)
  have place : (p.after (front.flatMap Segment.text)).after ('/' :: '/' :: (begun ++ said)) =
      p.after (text ++ '/' :: '/' :: said) := by
    have whole : front.flatMap Segment.text ++ '/' :: '/' :: (begun ++ said) =
        text ++ '/' :: '/' :: said :=
      calc front.flatMap Segment.text ++ '/' :: '/' :: (begun ++ said)
          = front.flatMap Segment.text ++ '/' :: '/' :: begun ++ said := by
            rw [List.append_assoc]
            rfl
        _ = text ++ '/' :: '/' :: said := by
            rw [spelled, List.append_assoc]
            rfl
    rw [← Place.after_append, whole]
  rw [scanAt_eq_append (split said rest oneLine ends), found, place, slashes]
  rfl

/-! ## What a comment moves -/

/-- What stands behind the line of a comment is moved by what the comment says, but not to another
    line. -/
theorem Place.after_comment (text : List Char) {said : List Char} (oneLine : '\n' ∉ said) :
    start.after (text ++ '/' :: '/' :: said) =
      (start.after (text ++ ['/', '/'])).shift (byteLength said) 0 := by
  have single : newlines said = 0 := List.count_eq_zero.2 oneLine
  have split : text ++ '/' :: '/' :: said = text ++ ['/', '/'] ++ said := by
    rw [List.append_assoc]
    rfl
  rw [split, Place.after_append, Place.after, single]
  rfl

/-- A fault, moved by some bytes if it lies at an offset or behind it. -/
def Fault.moveFrom (offset bytes : Nat) (f : Fault) : Fault :=
  if offset ≤ f.offset then { f with offset := f.offset + bytes } else f

theorem map_moveFrom_of_before {offset bytes : Nat} {faults : List Fault}
    (before : ∀ f ∈ faults, f.offset < offset) :
    faults.map (Fault.moveFrom offset bytes) = faults := by
  rw [← List.map_id faults, List.map_map]
  refine List.map_congr_left ?_
  intro f member
  exact if_neg (Nat.not_le.2 (before f member))

theorem map_moveFrom_of_behind {offset bytes : Nat} {faults : List Fault}
    (behind : ∀ f ∈ faults, offset ≤ f.offset) :
    faults.map (Fault.moveFrom offset bytes) = faults.map (Fault.shift bytes 0) :=
  List.map_congr_left fun f member => if_pos (behind f member)

/-- What a scan finds behind a comment, with something said in it and with nothing. -/
theorem exists_found_around_comment {source said rest : String} (closed : Closed source)
    (oneLine : '\n' ∉ said.toList) (ends : EndsLine rest.toList) :
    ∃ behind : Scan, (∀ f ∈ behind.faults, (source ++ "//").utf8ByteSize ≤ f.offset) ∧
      scanAt .start (source ++ "//" ++ rest).toList =
        scanAt .start (source ++ "//").toList ++ behind ∧
      scanAt .start (source ++ "//" ++ said ++ rest).toList =
        scanAt .start (source ++ "//").toList ++ behind.shift said.utf8ByteSize 0 := by
  have slashes : (source ++ "//").toList = source.toList ++ ['/', '/'] := String.toList_append
  have short : (source ++ "//" ++ rest).toList =
      source.toList ++ '/' :: '/' :: ([] ++ rest.toList) := by
    rw [String.toList_append, slashes, List.append_assoc]
    rfl
  have long : (source ++ "//" ++ said ++ rest).toList =
      source.toList ++ '/' :: '/' :: (said.toList ++ rest.toList) := by
    rw [String.toList_append, String.toList_append, slashes, List.append_assoc, List.append_assoc]
    rfl
  have allClosed := isOpen_of_closed closed
  refine ⟨scanAt (Place.start.after (source ++ "//").toList) rest.toList, ?_, ?_, ?_⟩
  · intro f member
    have size : (Place.start.after (source ++ "//").toList).offset =
        (source ++ "//").utf8ByteSize := by
      rw [Place.start_after, Text.byteLength_toList]
    exact size ▸ offset_le_of_mem_faults member
  · rw [short, scanAt_comment allClosed List.not_mem_nil ends, slashes]
  · rw [long, scanAt_comment allClosed oneLine ends, Place.after_comment _ oneLine, scanAt_shift,
      slashes, Text.byteLength_toList]

/-- Behind a source whose strings are all closed, what is said in a comment changes nothing but the
    offsets of the faults behind its line, and these by the bytes that it takes up. -/
theorem scan_comment (source said rest : String) (closed : Closed source)
    (oneLine : '\n' ∉ said.toList) (ends : rest = "" ∨ ∃ lines, rest = "\n" ++ lines) :
    (scan (source ++ "//" ++ said ++ rest)).tokens = (scan (source ++ "//" ++ rest)).tokens ∧
    (scan (source ++ "//" ++ said ++ rest)).faults =
      (scan (source ++ "//" ++ rest)).faults.map
        (Fault.moveFrom (source ++ "//").utf8ByteSize said.utf8ByteSize) := by
  have endsLine : EndsLine rest.toList := by
    obtain rfl | ⟨lines, rfl⟩ := ends
    · rfl
    · rw [String.toList_append]
      rfl
  obtain ⟨behind, offsets, short, long⟩ := exists_found_around_comment closed oneLine endsLine
  have lastLines :
      lastLine (source ++ "//" ++ said ++ rest) = lastLine (source ++ "//" ++ rest) := by
    have single : newlines said.toList = 0 := List.count_eq_zero.2 oneLine
    simp [lastLine, Place.after, single]
  constructor
  · have unmoved : Token.shift 0 = id := rfl
    rw [scan_tokens, scan_tokens, long, short, lastLines, Scan.tokens_append, Scan.tokens_append,
      Scan.shift, unmoved, List.map_id]
  · have front :
        ∀ f ∈ (scan (source ++ "//")).faults, f.offset < (source ++ "//").utf8ByteSize := by
      intro f member
      obtain ⟨positive, inside, -⟩ := span_of_mem_faults member
      omega
    rw [scan_faults, scan_faults, long, short, Scan.faults_append, Scan.faults_append,
      List.map_append, map_moveFrom_of_behind offsets, ← scan_faults, map_moveFrom_of_before front]
    rfl

/-- The point of `1.` stays a point, a slash goes into the comment, and what looks like tokens and
    faults there is none. -/
theorem scan_comment_point :
    Closed "1./" ∧ '\n' ∉ "\"or@é//".toList ∧
    scan ("1./" ++ "//" ++ "\"or@é//" ++ "\n#") =
      ⟨[⟨.number, "1", some (.number (.ofRatio 1 1)), 1⟩, ⟨.punct .dot, ".", none, 1⟩,
        .endOfText 2], [.unexpectedCharacter '#' 2 14]⟩ := by
  have closed : Closed "1./" := by decide +kernel
  have oneLine : '\n' ∉ "\"or@é//".toList := by decide +kernel
  obtain ⟨tokens, faults⟩ := scan_comment "1./" "\"or@é//" "\n#" closed oneLine (.inr ⟨"#", rfl⟩)
  refine ⟨closed, oneLine, ?_⟩
  have whole := congrArg₂ Scan.mk tokens faults
  refine whole.trans ?_
  decide +kernel

end LoxFront
