namespace MonkeySyntax

/-- An outline is a word, or has parts that may be named. -/
inductive Outline where
  | word (text : String)
  | record (name : String) (fields : List (String × Outline))
  | application (name : String) (argument : Outline)
  | list (items : List Outline)

namespace Outline

mutual

/-- On one line the parts are separated by commas. -/
def compact : Outline → String
  | word text => text
  | record name fields => name ++ " \x7b " ++ ", ".intercalate (compactFields fields) ++ " \x7d"
  | application name argument => name ++ "(" ++ argument.compact ++ ")"
  | list items => "[" ++ ", ".intercalate (compactItems items) ++ "]"

def compactFields : List (String × Outline) → List String
  | [] => []
  | (name, value) :: rest => (name ++ ": " ++ value.compact) :: compactFields rest

def compactItems : List Outline → List String
  | [] => []
  | item :: rest => item.compact :: compactItems rest

end

/-- A line starts with four blanks for each level around it. -/
def newline (level : Nat) : String :=
  "\n" ++ "".pushn ' ' (4 * level)

mutual

/-- On several lines every part is closed by a comma; a list without items stays on its line. -/
def indented (level : Nat) : Outline → String
  | word text => text
  | record name fields =>
    name ++ " \x7b" ++ indentedFields (level + 1) fields ++ newline level ++ "\x7d"
  | application name argument =>
    name ++ "(" ++ newline (level + 1) ++ argument.indented (level + 1) ++ "," ++
      newline level ++ ")"
  | list [] => "[]"
  | list (item :: rest) =>
    "[" ++ indentedItems (level + 1) (item :: rest) ++ newline level ++ "]"

def indentedFields (level : Nat) : List (String × Outline) → String
  | [] => ""
  | (name, value) :: rest =>
    newline level ++ name ++ ": " ++ value.indented level ++ "," ++ indentedFields level rest

def indentedItems (level : Nat) : List Outline → String
  | [] => ""
  | item :: rest => newline level ++ item.indented level ++ "," ++ indentedItems level rest

end

/-- The layout on several lines starts at the margin. -/
def pretty (outline : Outline) : String :=
  outline.indented 0

end Outline

end MonkeySyntax
