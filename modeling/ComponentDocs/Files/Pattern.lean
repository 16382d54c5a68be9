import ComponentDocs.Text.Split

/-! Patterns for paths. A pattern has one level for each piece between slashes; a level
is a name, a wildcard for names, or `**`, which stands for any number of directories. -/
namespace ComponentDocs

/-- What a part of a wildcard stands for. A class of characters is given by ranges,
ends included. -/
inductive Glyph
  | exactly (c : Char)
  | any
  | run
  | oneOf (ranges : List (Char × Char))
  | noneOf (ranges : List (Char × Char))
deriving DecidableEq

inductive PatternCause
  | tooManyStars
  | misplacedStars
  | invalidClass
deriving DecidableEq

def PatternCause.message : PatternCause → String
  | .tooManyStars => "wildcards are either regular `*` or recursive `**`"
  | .misplacedStars => "recursive wildcards must form a single path component"
  | .invalidClass => "invalid range pattern"

/-- What is wrong with a pattern, and before which character. -/
structure PatternError where
  position : Nat
  cause : PatternCause
deriving DecidableEq

def PatternError.message (error : PatternError) : String :=
  "Pattern syntax error near position " ++ toString error.position ++ ": " ++ error.cause.message

namespace Glyph

def within (ranges : List (Char × Char)) (c : Char) : Bool :=
  ranges.any fun range => range.1 ≤ c && c ≤ range.2

/-- Whether a glyph other than `run` stands for a character. -/
def admits (c : Char) : Glyph → Bool
  | .exactly letter => letter = c
  | .any => true
  | .run => false
  | .oneOf ranges => within ranges c
  | .noneOf ranges => !within ranges c

/-- A text, and what is left of it behind each of its characters. -/
def suffixes : List Char → List (List Char)
  | [] => [[]]
  | c :: rest => (c :: rest) :: suffixes rest

theorem mem_suffixes {text suffix : List Char} : suffix ∈ suffixes text ↔ suffix <:+ text := by
  induction text with
  | nil => simp [suffixes]
  | cons c rest ih => simp [suffixes, ih, List.suffix_cons_iff]

/-- Whether a series of glyphs stands for a name. A run stands for any text. -/
def stand : List Glyph → List Char → Bool
  | [], name => name.isEmpty
  | .run :: glyphs, name => (suffixes name).any (stand glyphs)
  | _ :: _, [] => false
  | glyph :: glyphs, c :: name => glyph.admits c && stand glyphs name

/-- The ranges of a class: `x-y`, or a single character. -/
def ranges : List Char → List (Char × Char)
  | first :: '-' :: last :: rest => (first, last) :: ranges rest
  | c :: rest => (c, c) :: ranges rest
  | [] => []

/-- What stands before the first closing bracket, and what behind it. -/
def closed : List Char → Option (List Char × List Char)
  | [] => none
  | ']' :: rest => some ([], rest)
  | c :: rest => (closed rest).map fun (inside, behind) => (c :: inside, behind)

/-- A class without its opening bracket, and what follows it. The first character of a
class belongs to it even if it is a closing bracket. -/
def readClass : List Char → Option (Glyph × List Char)
  | '!' :: first :: rest =>
    (closed rest).map fun (inside, behind) => (.noneOf (ranges (first :: inside)), behind)
  | ['!'] => none
  | first :: rest =>
    (closed rest).map fun (inside, behind) => (.oneOf (ranges (first :: inside)), behind)
  | [] => none

theorem length_of_closed {text inside behind : List Char}
    (found : closed text = some (inside, behind)) : behind.length < text.length := by
  fun_induction closed text generalizing inside behind with
  | case1 => contradiction
  | case2 rest =>
    obtain ⟨rfl, rfl⟩ : [] = inside ∧ rest = behind := by simpa using found
    simp
  | case3 c rest _ ih =>
    simp only [Option.map_eq_some_iff, Prod.exists, Prod.mk.injEq] at found
    obtain ⟨inner, after, inRest, _, rfl⟩ := found
    have := ih inRest
    simp only [List.length_cons]
    omega

theorem length_of_readClass {text behind : List Char} {glyph : Glyph}
    (found : readClass text = some (glyph, behind)) : behind.length < text.length := by
  unfold readClass at found
  split at found
  · simp only [Option.map_eq_some_iff, Prod.exists, Prod.mk.injEq] at found
    obtain ⟨inner, after, inRest, _, rfl⟩ := found
    have := length_of_closed inRest
    simp only [List.length_cons]
    omega
  · simp at found
  · simp only [Option.map_eq_some_iff, Prod.exists, Prod.mk.injEq] at found
    obtain ⟨inner, after, inRest, _, rfl⟩ := found
    have := length_of_closed inRest
    simp only [List.length_cons]
    omega
  · simp at found

/-- Reads the glyphs of a text behind the character `before`. Two stars stand between
slashes or at the ends only; here they are read as a run. -/
def read (before : Option Char) (position : Nat) (text : List Char) :
    Except PatternError (List Glyph) :=
  match text with
  | [] => .ok []
  | '?' :: rest => (read (some '?') (position + 1) rest).map (.any :: ·)
  | '*' :: '*' :: '*' :: _ => .error ⟨position + 2, .tooManyStars⟩
  | '*' :: '*' :: rest =>
    if before = none ∨ before = some '/' then
      match rest with
      | [] => .ok [.run]
      | '/' :: rest => (read (some '/') (position + 3) rest).map (.run :: ·)
      | _ => .error ⟨position + 2, .misplacedStars⟩
    else .error ⟨position - 1, .misplacedStars⟩
  | '*' :: rest => (read (some '*') (position + 1) rest).map (.run :: ·)
  | '[' :: rest =>
    match found : readClass rest with
    | none => .error ⟨position, .invalidClass⟩
    | some (glyph, behind) =>
      have := length_of_readClass found
      (read (some ']') (position + 1 + (rest.length - behind.length)) behind).map (glyph :: ·)
  | c :: rest => (read (some c) (position + 1) rest).map (.exactly c :: ·)
termination_by text.length

end Glyph

/-- One level of a pattern. -/
inductive Pattern.Level
  | literal (name : String)
  | wild (glyphs : List Glyph)
  | anyDepth
deriving DecidableEq

/-- A pattern may begin at the top of the tree, and may ask for directories. -/
structure Pattern where
  fromTop : Bool
  levels : List Pattern.Level
  directoriesOnly : Bool
deriving DecidableEq

namespace Pattern

/-- The text that some glyphs spell out, if each stands for one character only. -/
def spelled? : List Glyph → Option (List Char)
  | [] => some []
  | .exactly c :: glyphs => (spelled? glyphs).map (c :: ·)
  | _ => none

namespace Level

def read (text : List Char) : Except PatternError Level :=
  (Glyph.read none 0 text).map fun glyphs =>
    if text = ['*', '*'] then .anyDepth
    else
      match spelled? glyphs with
      | some name => .literal (String.ofList name)
      | none => .wild glyphs

/-- Whether a level other than `anyDepth` stands for a name. -/
def admits (name : String) : Level → Bool
  | .literal text => text = name
  | .wild glyphs => Glyph.stand glyphs name.toList
  | .anyDepth => false

end Level

/-- Reads a pattern. The whole text is examined before its levels, whose own faults
count characters from the beginning of the level. -/
def read (text : String) : Except PatternError Pattern := do
  let letters := text.toList
  let _ ← Glyph.read none 0 letters
  let fromTop := letters.head? = some '/'
  let directoriesOnly := letters.getLast? = some '/'
  let pieces := Text.split '/' (if fromTop then letters.drop 1 else letters)
  let pieces := if directoriesOnly && pieces.length > 1 then pieces.dropLast else pieces
  let levels ← pieces.mapM Level.read
  return { fromTop, levels, directoriesOnly }

end Pattern

end ComponentDocs
