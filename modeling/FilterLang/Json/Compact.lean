import FilterLang.Json.Basic

/-!
# Compact JSON

A JSON value on one line, without any space between its parts.
-/

namespace FilterLang.Json

mutual

/-- The compact text of a value in front of `k`. -/
def compactOnto : Json → List Char → List Char
  | .null, k => "null".toList ++ k
  | .bool value, k => (if value then "true" else "false").toList ++ k
  | .integer value, k => (toString value).toList ++ k
  | .real negative magnitude, k => realChars negative magnitude ++ k
  | .string value, k => quoteOnto value k
  | .array [], k => '[' :: ']' :: k
  | .array (e :: es), k => '[' :: compactOnto e (compactElementsOnto es (']' :: k))
  | .object [], k => '\x7b' :: '\x7d' :: k
  | .object ((name, value) :: ms), k =>
    '\x7b' :: quoteOnto name (':' :: compactOnto value (compactMembersOnto ms ('\x7d' :: k)))

/-- Further elements in front of `k`, a comma before each. -/
def compactElementsOnto : List Json → List Char → List Char
  | [], k => k
  | e :: es, k => ',' :: compactOnto e (compactElementsOnto es k)

/-- Further members in front of `k`, a comma before each. -/
def compactMembersOnto : List (String × Json) → List Char → List Char
  | [], k => k
  | (name, value) :: ms, k => ',' :: quoteOnto name (':' :: compactOnto value (compactMembersOnto ms k))

end

/-- The compact text of a value. -/
def compact (v : Json) : String := String.ofList (compactOnto v [])

end FilterLang.Json
