/-
This file reads TOML documents.

A document is a list of lines: headers that open a table or another one of a
list of tables, and pairs of a key and a value that belong to the table opened
last.
-/

import AccessFeed.Toml.Token

namespace AccessFeed.Toml

mutual

/-- Reads a value, with fuel for the values inside it, which may lie so many levels deep. -/
def readValueWithin : Nat → Nat → List Char → Read Value
  | 0, _, _ => none
  | fuel + 1, levels, text =>
    match text, levels with
    | '"' :: _, _ => (readText text).map fun part => (.text part.1, part.2)
    | '\'' :: _, _ => (readText text).map fun part => (.text part.1, part.2)
    | '[' :: _, 0 => none
    | '[' :: rest, levels + 1 =>
      (readElementsWithin fuel levels rest).map fun part => (.array part.1, part.2)
    | '\x7b' :: _, 0 => none
    | '\x7b' :: rest, levels + 1 =>
      match skipSpace rest with
      | '\x7d' :: behind => some (.table [], behind)
      | behind =>
        (readPairsWithin fuel levels [] behind).map fun part =>
          (.table (Node.toMembers part.1), part.2)
    | _, _ => readPlain text

/-- Reads the elements of an array up to its end. A comma may stand behind the last one. -/
def readElementsWithin : Nat → Nat → List Char → Read (List Value)
  | 0, _, _ => none
  | fuel + 1, levels, text =>
    match skipLines text with
    | none => none
    | some (']' :: behind) => some ([], behind)
    | some start =>
      match readValueWithin fuel levels start with
      | none => none
      | some (value, rest) =>
        match skipLines rest with
        | some (',' :: behind) =>
          (readElementsWithin fuel levels behind).map fun part => (value :: part.1, part.2)
        | some (']' :: behind) => some ([value], behind)
        | _ => none

/-- Reads the pairs of a table on one line up to its end. -/
def readPairsWithin :
    Nat → Nat → List (String × Node) → List Char → Read (List (String × Node))
  | 0, _, _, _ => none
  | fuel + 1, levels, members, text =>
    match readPairWithin fuel levels text with
    | none => none
    | some ((path, name, value), rest) =>
      match Node.assign path name value false members with
      | none => none
      | some members =>
        match skipSpace rest with
        | ',' :: behind => readPairsWithin fuel levels members behind
        | '\x7d' :: behind => some (members, behind)
        | _ => none

/-- Reads a key with its value. -/
def readPairWithin : Nat → Nat → List Char → Read (List String × String × Value)
  | 0, _, _ => none
  | fuel + 1, levels, text =>
    match readKey text with
    | none => none
    | some (names, rest) =>
      match skipSpace rest, names.getLast? with
      | '=' :: behind, some name =>
        (readValueWithin fuel levels (skipSpace behind)).map fun part =>
          ((names.dropLast, name, part.1), part.2)
      | _, _ => none

end

/-- A document so far: the outermost table, and the path of the table opened last. -/
structure Draft where
  members : List (String × Node) := []
  current : List String := []

namespace Draft

/-- The draft with a pair added to the current table. -/
def assign (draft : Draft) (path : List String) (name : String) (value : Value) : Option Draft :=
  (Node.descend false (Node.assign path name value) draft.current false draft.members).map
    fun members => { draft with members }

/-- Reads a header from behind its first bracket. -/
def readHeader (draft : Draft) (text : List Char) : Read Draft :=
  let (listed, start) :=
    match text with
    | '[' :: rest => (true, rest)
    | rest => (false, rest)
  match readKey start with
  | none => none
  | some (names, rest) =>
    let behind :=
      match listed, skipSpace rest with
      | true, ']' :: ']' :: behind => some behind
      | false, ']' :: behind => some behind
      | _, _ => none
    match behind, names.getLast? with
    | some behind, some name =>
      let opened :=
        if listed then Node.openListed names.dropLast name draft.members
        else Node.openTable names.dropLast name draft.members
      opened.map fun members => (⟨members, names⟩, behind)
    | _, _ => none

/-- Reads one line, which is not empty. -/
def readLine (draft : Draft) (text : List Char) : Read Draft :=
  match text with
  | '[' :: rest => draft.readHeader rest
  | _ =>
    match readPairWithin (2 * text.length + 2) (nestingLimit - 1) text with
    | none => none
    | some ((path, name, value), rest) =>
      (draft.assign path name value).map fun draft => (draft, rest)

/-- Reads the lines up to the end of the document, with fuel for the lines. -/
def readLinesWithin : Nat → Draft → List Char → Option Draft
  | 0, _, _ => none
  | fuel + 1, draft, text =>
    match skipLines text with
    | none => none
    | some [] => some draft
    | some start =>
      match draft.readLine start with
      | none => none
      | some (draft, rest) =>
        match skipComment (skipSpace rest) with
        | none => none
        | some [] => some draft
        | some behind =>
          match lineEnd? behind with
          | some next => readLinesWithin fuel draft next
          | none => none

end Draft

/-- Reads a document: the members of its outermost table, or nothing if it is malformed. -/
def read (text : String) : Option (List (String × Value)) :=
  let start :=
    match text.toList with
    | '\ufeff' :: rest => rest
    | other => other
  (Draft.readLinesWithin (start.length + 1) {} start).map fun draft =>
    Node.toMembers draft.members

end AccessFeed.Toml
