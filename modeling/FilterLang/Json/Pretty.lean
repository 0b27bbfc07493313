import FilterLang.Json.Basic

/-!
# Pretty JSON

A JSON value with every element and every member on a line of its own, indented by two spaces for each level. Empty
arrays and objects stay on one line.
-/

namespace FilterLang.Json

/-- A new line at the given level, in front of `k`. -/
def lineOnto (level : Nat) (k : List Char) : List Char := '\n' :: (List.replicate (2 * level) ' ' ++ k)

mutual

/-- The pretty text of a value at the given level, in front of `k`. -/
def prettyOnto (level : Nat) : Json → List Char → List Char
  | .null, k => "null".toList ++ k
  | .bool value, k => (if value then "true" else "false").toList ++ k
  | .integer value, k => (toString value).toList ++ k
  | .real negative magnitude, k => realChars negative magnitude ++ k
  | .string value, k => quoteOnto value k
  | .array [], k => '[' :: ']' :: k
  | .array (e :: es), k =>
    '[' :: lineOnto (level + 1)
      (prettyOnto (level + 1) e (prettyElementsOnto (level + 1) es (lineOnto level (']' :: k))))
  | .object [], k => '\x7b' :: '\x7d' :: k
  | .object ((name, value) :: ms), k =>
    '\x7b' :: lineOnto (level + 1)
      (quoteOnto name (':' :: ' ' :: prettyOnto (level + 1) value
        (prettyMembersOnto (level + 1) ms (lineOnto level ('\x7d' :: k)))))

/-- Further elements at the given level, each on a new line after a comma, in front of `k`. -/
def prettyElementsOnto (level : Nat) : List Json → List Char → List Char
  | [], k => k
  | e :: es, k => ',' :: lineOnto level (prettyOnto level e (prettyElementsOnto level es k))

/-- Further members at the given level, each on a new line after a comma, in front of `k`. -/
def prettyMembersOnto (level : Nat) : List (String × Json) → List Char → List Char
  | [], k => k
  | (name, value) :: ms, k =>
    ',' :: lineOnto level
      (quoteOnto name (':' :: ' ' :: prettyOnto level value (prettyMembersOnto level ms k)))

end

/-- The pretty text of a value. -/
def pretty (v : Json) : String := String.ofList (prettyOnto 0 v [])

end FilterLang.Json
