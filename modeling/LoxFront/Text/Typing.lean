import LoxFront.Text.Bytes
import LoxFront.Text.Cluster.Basic

/-! # Typed text

A line may hold backspaces, each of which takes back the cluster typed before it, if there is one.
How much a cluster takes back is kept as a number of bytes in a single byte, so a cluster of 256
bytes or more takes back less than was typed, and a backspace may then fall inside a character and
leave no text at all.  Where nothing is taken back, the text is what was typed
(`typed?_eq_some`).
-/

namespace LoxFront.Text

def backspace : Char :=
  '\x08'

/-- What has been typed: the text, from its end to its beginning, and how many bytes each backspace
    takes back, the next one first. -/
structure Typed where
  backwards : List Char
  sizes : List Nat
deriving DecidableEq, Repr

namespace Typed

def empty : Typed :=
  ⟨[], []⟩

def add (t : Typed) (cluster : List Char) : Typed :=
  ⟨cluster.reverse ++ t.backwards, byteLength cluster % 256 :: t.sizes⟩

def takeBack? (t : Typed) : Option Typed :=
  match t.sizes with
  | [] => some t
  | size :: sizes => (splitBytes? size t.backwards).map fun (_, kept) => ⟨kept, sizes⟩

def type? (t : Typed) (cluster : List Char) : Option Typed :=
  if cluster = [backspace] then t.takeBack? else some (t.add cluster)

def text (t : Typed) : List Char :=
  t.backwards.reverse

end Typed

def typed? (line : List Char) : Option (List Char) :=
  ((clusters line).foldlM Typed.type? .empty).map Typed.text

theorem foldlM_type?_eq_some {row : List (List Char)} (t : Typed) (h : [backspace] ∉ row) :
    (row.foldlM Typed.type? t).map Typed.text = some (t.text ++ row.flatten) := by
  induction row generalizing t with
  | nil => simp
  | cons cluster rest ih =>
    obtain ⟨first, others⟩ := List.ne_and_not_mem_of_not_mem_cons h
    have step : t.type? cluster = some (t.add cluster) := if_neg (Ne.symm first)
    rw [List.foldlM_cons, step]
    simpa [Typed.text, Typed.add] using ih (t.add cluster) others

/-- A line without backspaces is typed as it stands. -/
theorem typed?_eq_some {line : List Char} (h : backspace ∉ line) : typed? line = some line := by
  have clean : [backspace] ∉ clusters line := by
    intro hmem
    refine h ?_
    rw [← flatten_clusters line]
    exact List.mem_flatten.2 ⟨_, hmem, List.mem_singleton.2 rfl⟩
  simpa [typed?, Typed.text, Typed.empty, flatten_clusters] using
    foldlM_type?_eq_some .empty clean

end LoxFront.Text
