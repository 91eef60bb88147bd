import KubeJava.Text.Lines

set_option autoImplicit false

/-! # Paths

A path is an anchor and a list of components. Empty components and single dots are dropped when a
path is read; double dots are kept, because a link may stand before them. -/

namespace KubeJava

structure Path where
  /-- Nothing for a relative path, and otherwise one or two slashes. -/
  anchor : Text := ""
  components : List Text := []
  deriving DecidableEq, Repr

namespace Path

/-- The character between components. -/
def separator : CodePoint := '/'

/-- The anchor of a text: exactly two slashes at its front stay two, more count as one. -/
def anchorOf (t : Text) : Text :=
  match (t.takeWhile (· = separator)).length with
  | 0 => ""
  | 2 => "//"
  | _ => "/"

def componentsOf (t : Text) : List Text :=
  (Text.partsAt separator t).filter fun c => c ≠ [] ∧ c ≠ "."

def ofText (t : Text) : Path := ⟨anchorOf t, componentsOf t⟩

/-- The path with one more part; an absolute part replaces what is before it. -/
def join (p : Path) (part : Text) : Path :=
  let q := ofText part
  if q.anchor = [] then { p with components := p.components ++ q.components } else q

def joinAll (p : Path) (parts : List Text) : Path := parts.foldl join p

/-- The path without its last component. -/
def parent (p : Path) : Path := { p with components := p.components.dropLast }

/-- The path as text; a path without anything is the current directory. -/
def text (p : Path) : Text :=
  if p.anchor = [] ∧ p.components = [] then "."
  else p.anchor ++ [separator].intercalate p.components

def isAbsolute (p : Path) : Bool := p.anchor ≠ []

/-! ## Bytes -/

/-- Whether a surrogate stands for a byte that is no part of a character. -/
def standsForByte (c : CodePoint) : Bool := 0xdc80 ≤ c.val && c.val ≤ 0xdcff

/-- Whether a name or path can be passed on as bytes. -/
def hasBytes (t : Text) : Bool := t.all fun c => !c.isSurrogate || standsForByte c

def byteSize (t : Text) : Nat :=
  t.foldl (fun size c => size + if standsForByte c then 1 else c.utf8Width) 0

end Path

end KubeJava
