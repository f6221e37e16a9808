import Mathlib.Data.Nat.Basic

/-!
# Texts

What the program does with texts by the methods of JavaScript strings and by regular expressions.

## Main definitions

- `trim`, `truthy`
- `keepOnly`, `replaceRuns`, `dropEdges` — the replacements that make a slug or an SKU
-/

namespace Invetrixa

/-- What JavaScript takes for white space. -/
def isWhiteSpace (c : Char) : Bool :=
  c.toNat ∈ [9, 10, 11, 12, 13, 32, 160, 0x1680, 0x2028, 0x2029, 0x202f, 0x205f, 0x3000, 0xfeff] ∨
    0x2000 ≤ c.toNat ∧ c.toNat ≤ 0x200a

/-- `text.trim()` -/
def trim (text : String) : String :=
  String.ofList (((text.toList.dropWhile isWhiteSpace).reverse.dropWhile isWhiteSpace).reverse)

/-- A text that is there and not empty. -/
def truthy (text : Option String) : Option String := text.filter (· ≠ "")

/-- `\w` -/
def isWordChar (c : Char) : Bool := c.isAlphanum || c = '_'

/-- Each run of characters that match becomes one hyphen. -/
def replaceRuns (p : Char → Bool) : Bool → List Char → List Char
  | _, [] => []
  | inRun, c :: rest =>
    if p c then if inRun then replaceRuns p true rest else '-' :: replaceRuns p true rest
    else c :: replaceRuns p false rest

/-- `replace(/^-|-$/g, '')` -/
def dropEdges (text : List Char) : List Char :=
  let text := if text.head? = some '-' then text.tail else text
  if text.getLast? = some '-' then text.dropLast else text

end Invetrixa
