import QueryAdvisor.Number.Power
import QueryAdvisor.Sql.Parser
import QueryAdvisor.Text.Letter

/-!
# Types

A type is kept as its text: built-in types in their usual spelling, any other
name as written. Numbers in a type lose their leading zeros.
-/

namespace QueryAdvisor.Sql

/-- What kind of type a text names. -/
inductive TypeKind where
  | builtin
  | interval
  | custom
deriving DecidableEq, Repr

/-- A type. -/
structure DataType where
  kind : TypeKind
  text : String
deriving DecidableEq, Repr

namespace DataType

open QueryAdvisor.Sql.Parser

/-- A whole number of so many bits. -/
def wholeNumber (bits : Nat) : Parser Nat := do
  match ← next? with
  | some (.number digits _) =>
      match Text.natural? digits.toList with
      | some n => if n < twoTo bits then pure n else fail
      | none => fail
  | _ => fail

/-- A whole number of 64 bits. -/
def uint : Parser Nat :=
  wholeNumber 64

def natText (n : Nat) : String :=
  String.ofList (Nat.toDigits 10 n)

/-- A number between parentheses, or nothing. -/
def optionalPrecision : Parser String := do
  if ← symbol "(" then
    let n ← uint
    expectSymbol ")"
    pure ("(" ++ natText n ++ ")")
  else pure ""

/-- One or two numbers between parentheses, or nothing. -/
def optionalPrecisionScale : Parser String := do
  if ← symbol "(" then
    let n ← uint
    let scale ← if ← symbol "," then (fun m => "," ++ natText m) <$> uint else pure ""
    expectSymbol ")"
    pure ("(" ++ natText n ++ scale ++ ")")
  else pure ""

/-- A length between parentheses, or nothing. -/
def optionalLength : Parser String := do
  if ← symbol "(" then
    let length ←
      if ← keyword "MAX" then pure "MAX"
      else do
        let n ← uint
        match ← oneOf? ["CHARACTERS", "OCTETS"] with
        | some unit => pure (natText n ++ " " ++ unit)
        | none => pure (natText n)
    expectSymbol ")"
    pure ("(" ++ length ++ ")")
  else pure ""

/-- An integer type with a display width. -/
def integerType (name : String) : Parser String := do
  let width ← optionalPrecision
  if ← keyword "UNSIGNED" then pure (name ++ width ++ " UNSIGNED") else pure (name ++ width)

/-- The rest of a character type. -/
def characterType (name : String) : Parser String := do
  if ← keyword "VARYING" then (name ++ " VARYING" ++ ·) <$> optionalLength
  else if ← keywords ["LARGE", "OBJECT"] then (name ++ " LARGE OBJECT" ++ ·) <$> optionalPrecision
  else (name ++ ·) <$> optionalLength

/-- A type of time with its precision and time zone. -/
def timeType (name : String) : Parser String := do
  let precision ← optionalPrecision
  if ← keyword "WITH" then
    expectKeywords ["TIME", "ZONE"]
    pure (name ++ precision ++ " WITH TIME ZONE")
  else if ← keyword "WITHOUT" then
    expectKeywords ["TIME", "ZONE"]
    pure (name ++ precision ++ " WITHOUT TIME ZONE")
  else pure (name ++ precision)

/-- A text with each quote doubled, unless it is doubled already or follows a
backslash. -/
def escapeQuotes (quote : Char) (before : Char) : List Char → List Char
  | [] => []
  | [c] => if c = quote && before ≠ '\\' then [c, c] else [c]
  | c :: d :: rest =>
      if c = quote then
        if before = '\\' then c :: escapeQuotes quote before (d :: rest)
        else if d = quote then c :: c :: escapeQuotes quote c rest
        else c :: c :: escapeQuotes quote c (d :: rest)
      else c :: escapeQuotes quote c (d :: rest)

def withQuotes (quote : Char) (s : String) : String :=
  String.ofList (quote :: (escapeQuotes quote (Char.ofNat 0) s.toList ++ [quote]))

/-- Texts between parentheses. -/
def textValues (name : String) : Parser String := do
  let texts ← parenthesized (commaSeparated text)
  pure (name ++ "(" ++ String.intercalate ", " (texts.map (withQuotes '\'')) ++ ")")
where
  /-- One text between single quotes. -/
  text : Parser String := do
    match ← next? with
    | some (.singleQuoted s) => pure s
    | _ => fail

/-- Types that take nothing behind their name. -/
def plainTypes : List String :=
  ["BOOLEAN", "BOOL", "REAL", "FLOAT4", "FLOAT32", "FLOAT64", "FLOAT8", "INT16", "INT32", "INT64",
    "INT128", "INT256", "UINT8", "UINT16", "UINT32", "UINT64", "UINT128", "UINT256", "UUID",
    "DATE", "DATE32", "JSON", "JSONB", "REGCLASS", "TEXT", "BYTEA", "TRIGGER"]

def integerTypes : List String :=
  ["TINYINT", "INT2", "SMALLINT", "MEDIUMINT", "INT", "INT4", "INT8", "INTEGER", "BIGINT"]

/-- Types that may have one number behind their name. -/
def precisionTypes : List String :=
  ["FLOAT", "CLOB", "BINARY", "VARBINARY", "BLOB", "BYTES", "DATETIME", "STRING", "TIMESTAMPTZ",
    "TIMETZ"]

/-- Types that may have one or two numbers behind their name. -/
def exactTypes : List String :=
  ["NUMERIC", "DECIMAL", "DEC", "BIGNUMERIC", "BIGDECIMAL"]

/-- The rest of a built-in type whose name has been consumed. -/
def builtin? (name : String) : Option (Parser String) :=
  if plainTypes.contains name then some (pure name)
  else if integerTypes.contains name then some (integerType name)
  else if precisionTypes.contains name then some ((name ++ ·) <$> optionalPrecision)
  else if exactTypes.contains name then some ((name ++ ·) <$> optionalPrecisionScale)
  else if name = "VARCHAR" || name = "NVARCHAR" then some ((name ++ ·) <$> optionalLength)
  else if name = "CHARACTER" || name = "CHAR" then some (characterType name)
  else if name = "TIMESTAMP" || name = "TIME" then some (timeType name)
  else if name = "ENUM" || name = "SET" then some (textValues name)
  else if name = "DOUBLE" then
    some do if ← keyword "PRECISION" then pure "DOUBLE PRECISION" else pure "DOUBLE"
  else if name = "FIXEDSTRING" then
    some do
      let n ← parenthesized uint
      pure ("FIXEDSTRING(" ++ natText n ++ ")")
  else if name = "DATETIME64" then some (parenthesized datetime64)
  else none
where
  /-- A precision and, if given, a time zone. -/
  datetime64 : Parser String := do
    let n ← uint
    if ← symbol "," then
      let zone ← literalText
      pure ("DATETIME64(" ++ natText n ++ ", '" ++ zone ++ "')")
    else pure ("DATETIME64(" ++ natText n ++ ")")

/-- An identifier as it is shown in a type. -/
def identText (i : Token) : Option String :=
  match i with
  | .word text _ => some text
  | .quotedWord text => some (withQuotes '"' text)
  | .singleQuoted text => some (withQuotes '\'' text)
  | _ => none

/-- The parts of a custom type's name behind those already read (latest first). -/
def customName : (bound : Nat) → (read : List String) → Parser (List String)
  | 0, _ => fail
  | bound + 1, read => do
      match (← next?).bind identText with
      | none => fail
      | some part =>
          if ← symbol "." then customName bound (part :: read) else pure (part :: read).reverse

/-- What stands between the parentheses behind a custom type, up to the closing
one. -/
def modifiers : (bound : Nat) → (read : List String) → Parser (List String)
  | 0, _ => fail
  | bound + 1, read => do
      match ← next? with
      | some (.word text _) => modifiers bound (text :: read)
      | some (.quotedWord text) => modifiers bound (("\"" ++ text ++ "\"") :: read)
      | some (.number digits _) => modifiers bound (digits :: read)
      | some (.singleQuoted text) => modifiers bound (text :: read)
      | some (.symbol ",") => modifiers bound read
      | some (.symbol ")") => pure read.reverse
      | _ => fail

/-- A custom type. -/
def customType : Parser String := do
  let bound := (← remaining) + 1
  let parts ← customName bound []
  let name := String.intercalate "." parts
  if ← symbol "(" then
    let read ← modifiers bound []
    if read.isEmpty then pure name
    else pure (name ++ "(" ++ String.intercalate ", " read ++ ")")
  else pure name

/-- The brackets of array types behind a type. -/
def brackets : (bound : Nat) → DataType → Parser DataType
  | 0, _ => fail
  | bound + 1, type => do
      if ← symbol "[" then
        let size ← attempt uint
        expectSymbol "]"
        let size := (size.map natText).getD ""
        brackets bound ⟨.builtin, type.text ++ "[" ++ size ++ "]"⟩
      else pure type

/-- A type, and whether the bracket that closes the type around it has been
consumed along with its own. Types nest by at least one token, so `bound` is
the number of tokens. -/
def typeWithin : (bound : Nat) → Parser (DataType × Bool)
  | 0 => fail
  | bound + 1 => do
      let (type, closed) ←
        match ← peek? with
        | some (.word _ name) => named name bound
        | some (.quotedWord _) => custom
        | _ => fail
      let type ← brackets ((← remaining) + 1) type
      pure (type, closed)
where
  /-- A type that is no built-in one. -/
  custom : Parser (DataType × Bool) := do
    let text ← customType
    pure (⟨.custom, text⟩, false)
  /-- A type that starts with a word. -/
  named (name : String) (bound : Nat) : Parser (DataType × Bool) := do
    if name = "INTERVAL" then
      let _ ← next?
      pure (⟨.interval, name⟩, false)
    else if name = "ARRAY" then
      let _ ← next?
      expectSymbol "<"
      let (inner, closed) ← typeWithin bound
      let type : DataType := ⟨.builtin, "ARRAY<" ++ inner.text ++ ">"⟩
      if closed then pure (type, false)
      else if ← symbol ">" then pure (type, false)
      else if ← symbol ">>" then pure (type, true)
      else fail
    else
      match builtin? name with
      | some rest => do
          let _ ← next?
          let text ← rest
          pure (⟨.builtin, text⟩, false)
      | none => custom

end DataType

/-- A type. -/
def dataType : Parser DataType := do
  let (type, closed) ← DataType.typeWithin ((← Parser.remaining) + 1)
  if closed then Parser.fail else pure type

end QueryAdvisor.Sql
