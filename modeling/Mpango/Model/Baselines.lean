import Mpango.Model.Harness

/-!
# What changed since the baseline

The gate learns what changed in one of two ways. With a directory it walks both trees and compares
hashes of the files. With a reference it reads the names that `git diff --name-only` prints: a
detected rename is printed under its new name only, and a name with unusual characters in quotes.

The hash and the detection of renames are not the validator's; they are parameters. Of a detected
rename it is known that its old path is gone and its new path is new.
-/

namespace Mpango

namespace Harness

/-! ## Trees -/

structure TreeFile where
  path : String
  executable : Bool
  bytes : List UInt8
  deriving DecidableEq

/-- The files of a tree, each with a path of its own. -/
structure Tree where
  files : List TreeFile
  keyed : (files.map (·.path)).Nodup
  named : ∀ f ∈ files, f.path ≠ ""

namespace Tree

def paths (t : Tree) : List String := t.files.map (·.path)

def file? (t : Tree) (path : String) : Option TreeFile := t.files.find? (·.path = path)

def bytes? (t : Tree) (path : String) : Option (List UInt8) := (t.file? path).map (·.bytes)

end Tree

/-! ## Directories -/

/-- `FS_COMPARE_IGNORE`. -/
def fsCompareIgnore : List String :=
  [".git", "__pycache__", "node_modules", ".pytest_cache", ".venv", ".gitnexus"]

/-- The path lies under an ignored directory. -/
def isIgnored (path : String) : Bool :=
  ((path.toList.splitOn '/').dropLast.map String.ofList).any (· ∈ fsCompareIgnore)

def isCompiled (path : String) : Bool := ".pyc".toList.isSuffixOf path.toList

/-- `snapshot`: the hashes of the files, by path. -/
def snapshot (hash : List UInt8 → ℤ) (t : Tree) : List (String × ℤ) :=
  (t.files.filter fun f => !isIgnored f.path && !isCompiled f.path).map fun f =>
    (f.path, hash f.bytes)

/-- `fs_changed_paths`. -/
def fsChangedPaths (hash : List UInt8 → ℤ) (head base : Tree) : List String :=
  let head := snapshot hash head
  let base := snapshot hash base
  ((head.filter fun entry => base.lookup entry.1 ≠ some entry.2).map (·.1)) ++
    (base.map (·.1)).filter (· ∉ head.map (·.1))

/-! ## Names in print -/

def doubleQuote : Char := Char.ofNat 34

def backslash : Char := Char.ofNat 92

/-- The characters with a letter, or a sign, to escape them. -/
def namedEscape? (c : Char) : Option Char :=
  match c.toNat with
  | 7 => some 'a'
  | 8 => some 'b'
  | 9 => some 't'
  | 10 => some 'n'
  | 11 => some 'v'
  | 12 => some 'f'
  | 13 => some 'r'
  | 34 => some doubleQuote
  | 92 => some backslash
  | _ => none

def isUnusual (c : Char) : Bool := c.toNat < 0x20 || c.toNat = 34 || c.toNat = 92 || 0x7f ≤ c.toNat

def octalDigit (n : ℕ) : Char := Char.ofNat ('0'.toNat + n % 8)

def octalEscape (b : UInt8) : List Char :=
  [backslash, octalDigit (b.toNat / 64), octalDigit (b.toNat / 8), octalDigit b.toNat]

def escape (c : Char) : List Char :=
  match namedEscape? c with
  | some e => [backslash, e]
  | none => if isUnusual c then (String.utf8EncodeChar c).flatMap octalEscape else [c]

/-- A path as `core.quotePath` has it printed. -/
def quotePath (path : String) : String :=
  if path.toList.any isUnusual then
    String.ofList (doubleQuote :: path.toList.flatMap escape ++ [doubleQuote])
  else path

/-- The ends of lines that `splitlines` knows. -/
def isLineEnd (c : Char) : Bool :=
  let n := c.toNat
  10 ≤ n && n ≤ 13 || 28 ≤ n && n ≤ 30 || n = 0x85 || n = 0x2028 || n = 0x2029

/-- `splitlines`, from the characters of a line so far. -/
def splitLines (line : List Char) : List Char → List (List Char)
  | [] => if line = [] then [] else [line]
  | '\r' :: '\n' :: cs => line :: splitLines [] cs
  | c :: cs => if isLineEnd c then line :: splitLines [] cs else splitLines (line ++ [c]) cs

/-! ## References -/

/-- The detection of renames between two trees, from old paths to new ones. -/
structure RenameDetection where
  renames : Tree → Tree → List (String × String)
  old_gone : ∀ base head, ∀ r ∈ renames base head, r.1 ∈ base.paths ∧ r.1 ∉ head.paths
  new_new : ∀ base head, ∀ r ∈ renames base head, r.2 ∈ head.paths ∧ r.2 ∉ base.paths

/-- The paths of the differences of two trees, those of renames under their new names. -/
def diffPaths (detection : RenameDetection) (base head : Tree) : List String :=
  ((head.files.filter fun f => base.file? f.path ≠ some f).map (·.path)) ++
    base.paths.filter fun path =>
      path ∉ head.paths ∧ path ∉ (detection.renames base head).map (·.1)

/-- The output of `git diff --name-only`. -/
def diffOutput (detection : RenameDetection) (base head : Tree) : List Char :=
  (diffPaths detection base head).flatMap fun path => (quotePath path).toList ++ ['\n']

/-- The changed paths that `resolve_baseline` reads from it. -/
def gitChangedPaths (detection : RenameDetection) (head base : Tree) : List String :=
  ((splitLines [] (diffOutput detection base head)).map fun line =>
    strip (String.ofList line)).filter (· ≠ "")

example : quotePath "docs/résumé.md" =
    String.ofList (doubleQuote :: "docs/r".toList ++ octalEscape 195 ++ octalEscape 169 ++
      "sum".toList ++ octalEscape 195 ++ octalEscape 169 ++ ".md".toList ++ [doubleQuote]) := by
  decide +kernel

end Harness

end Mpango
