import LoxFront.Command.Log.Level
import LoxFront.Command.Log.Pattern
import LoxFront.Text.Bytes

/-! # Filters of the log

A filter decides which events are shown.  It is a row of limits, each for the events of some
targets, or for those that have some field, and of the limits that concern an event the most
specific one decides.  A limit may also be about spans of time or about values of fields; the
program opens no spans and only spans have their values looked at, so such a limit concerns no
event.
-/

namespace LoxFront.Command

open Text (byteLength sliceBytes?)

/-- Why a text is no filter: it is not written like one, or a part of it begins or ends inside a
    character. -/
inductive FilterError where
  | malformed
  | insideCharacter
deriving DecidableEq, Repr

/-! ## Limits -/

/-- What a limit asks of the fields of an event: one with the given name, or with a value too. -/
structure FieldTest where
  name : List Char
  value : Option (List Char)
deriving DecidableEq, Repr

/-- A limit: whose events it is about, and the level up to which they are shown, if any are. -/
structure Limit where
  target : Option (List Char)
  span : Option (List Char)
  field : Option FieldTest
  level : Option Level
deriving DecidableEq, Repr

namespace Limit

def concerns (l : Limit) (target : List Char) (fields : List String) : Bool :=
  l.span.isNone &&
    l.target.all (·.isPrefixOf target) &&
    l.field.all fun test => test.value.isNone && fields.contains (String.ofList test.name)

/-- Whether of two limits that concern an event the second one decides.  The longer target does;
    then a field before none, and of two fields the later in the order of names; and of limits
    about the same events the last. -/
def yieldsTo (a b : Limit) : Bool :=
  let length (l : Limit) := l.target.elim 0 fun target => target.length + 1
  if length a ≠ length b then length a < length b
  else
    match a.field, b.field with
    | none, _ => true
    | some _, none => false
    | some x, some y => !(y.name < x.name)

/-! ## Reading limits -/

/-- Whether a limit can begin with a character, unless it begins with a bracket. -/
def canStart (c : Char) : Bool :=
  c == '-' || c == ':' || c == '_' || Text.isAlphanumeric c

def part (first last : Nat) (text : List Char) : Except FilterError (List Char) :=
  match sliceBytes? first last text with
  | some part => .ok part
  | none => .error .insideCharacter

def readField (text : List Char) : Except FilterError FieldTest :=
  match text.splitOn '=' with
  | [] => .error .malformed
  | [name] => .ok ⟨name, none⟩
  | name :: value :: _ =>
      if Pattern.isReadable value then .ok ⟨name, some value⟩ else .error .malformed

/-- Read what follows the equals sign; without a word, everything is shown. -/
def readLevel (word : List Char) : Except FilterError (Option Level) :=
  if word = [] then .ok (some .trace)
  else
    match limitOfWord? word with
    | some level => .ok level
    | none => .error .malformed

/-- Read a limit that has neither brackets nor an equals sign: a level for all targets, or else a
    target that is shown in full. -/
def ofWord (word : List Char) : Limit :=
  match limitOfWord? word with
  | some level => ⟨none, none, none, level⟩
  | none => ⟨some word, none, none, some .trace⟩

/-- Read the end of a limit, which stands at `offset` in `text` and is shaped like `shape`. -/
def readEnd (text : List Char) (l : Limit) (offset : Nat) (shape : List Char) :
    Except FilterError Limit :=
  match shape with
  | [] => .ok l
  | '=' :: _ => do
      let word ← part (offset + 1) (byteLength text) text
      return { l with level := ← readLevel word }
  | _ => .error .malformed

def readBrackets (text : List Char) (target : Option (List Char)) (offset : Nat)
    (shape : List Char) : Except FilterError Limit :=
  let name := shape.takeWhile fun c => c != ']' && c != '\x7b'
  let nameEnd := offset + byteLength name
  match shape.dropWhile fun c => c != ']' && c != '\x7b' with
  | [] => .error .malformed
  | ']' :: rest => do
      let span ← part offset nameEnd text
      readEnd text ⟨target, some span, none, some .trace⟩ (nameEnd + 1) rest
  | _ :: rest => do
      let span ← part offset nameEnd text
      let fieldEnd := nameEnd + 1 + byteLength (rest.takeWhile (· != '\x7d'))
      match rest.dropWhile (· != '\x7d') with
      | [] => .error .malformed
      | _ :: rest => do
          let field ← part (nameEnd + 1) fieldEnd text
          if field = [] then .error .malformed
          else
            let test ← readField field
            let span := if span = [] then none else some span
            match rest with
            | ']' :: rest =>
                readEnd text ⟨target, span, some test, some .trace⟩ (fieldEnd + 2) rest
            | _ => .error .malformed

/-- Read a limit.  Its shape is that of the text without the white space around it, while its parts
    are taken at the same offsets from the text itself: white space behind a limit belongs to its
    last part, and white space in front of it shifts all parts, so that a part may come to begin or
    end inside a character. -/
def parse (text : List Char) : Except FilterError Limit :=
  match Text.trim text with
  | [] => .error .malformed
  | '[' :: rest => readBrackets text none 1 rest
  | c :: rest =>
      let word := (c :: rest).takeWhile fun c => c != '=' && c != '['
      let wordEnd := byteLength word
      if canStart c then
        match (c :: rest).dropWhile fun c => c != '=' && c != '[' with
        | [] => .ok (ofWord text)
        | '[' :: rest => do
            readBrackets text (some (← part 0 wordEnd text)) (wordEnd + 1) rest
        | ending => do
            let target ← part 0 wordEnd text
            readEnd text ⟨some target, none, none, some .trace⟩ wordEnd ending
      else .error .malformed

end Limit

/-! ## Filters -/

abbrev Filter : Type :=
  List Limit

namespace Filter

def parse (text : List Char) : Except FilterError Filter :=
  ((text.splitOn ',').filter (· != [])).mapM Limit.parse

def ofVerbosity (count : Nat) : Filter :=
  let level : Level :=
    match count with
    | 0 => .warn
    | 1 => .debug
    | _ => .trace
  [⟨some ['l', 'o', 'x'], none, none, some level⟩]

def limit? (f : Filter) (target : List Char) (fields : List String) : Option Limit :=
  (f.filter (·.concerns target fields)).foldl
    (fun best limit =>
      match best with
      | none => some limit
      | some other => if other.yieldsTo limit then some limit else best)
    none

/-- Whether a filter shows the events of a level from a target with the given fields; what no limit
    concerns is not shown. -/
def shows (f : Filter) (level : Level) (target : String) (fields : List String) : Bool :=
  match (f.limit? target.toList fields).bind Limit.level with
  | none => false
  | some limit => level.rank ≤ limit.rank

end Filter

end LoxFront.Command
