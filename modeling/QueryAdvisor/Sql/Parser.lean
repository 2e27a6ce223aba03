import QueryAdvisor.Sql.Keyword
import QueryAdvisor.Sql.Statement
import QueryAdvisor.Sql.Token

/-!
# Reading from the front of a list of tokens

A parser consumes tokens from the front of a list, or fails. There are two
ways to fail: the tokens do not fit, or the query is nested too deeply. What
was attempted and did not fit may be tried another way; depth ends
everything.
-/

namespace QueryAdvisor.Sql

/-- Why a query cannot be read. -/
inductive Fault where
  | unexpected
  | tooDeep
deriving DecidableEq, Repr

/-- Reads something from the front of the tokens. -/
abbrev Parser := StateT (List Token) (Except Fault)

namespace Parser

variable {α β : Type}

/-- The tokens do not fit. -/
def fail : Parser α := fun _ => .error .unexpected

/-- The query is nested too deeply. -/
def tooDeep : Parser α := fun _ => .error .tooDeep

/-- The next token, not consumed. -/
def peek? : Parser (Option Token) := fun tokens => .ok (tokens.head?, tokens)

/-- The token behind some others, not consumed. -/
def peekAt? (index : Nat) : Parser (Option Token) := fun tokens => .ok (tokens[index]?, tokens)

/-- Consumes the next token, if there is one. -/
def next? : Parser (Option Token) := fun tokens => .ok (tokens.head?, tokens.tail)

/-- How many tokens are left. -/
def remaining : Parser Nat := fun tokens => .ok (tokens.length, tokens)

/-- Whether the next token is a keyword. -/
def sees (keyword : String) : Parser Bool := fun tokens =>
  .ok ((tokens.head?.map (Token.isKeyword keyword)).getD false, tokens)

/-- Whether the next token is a symbol. -/
def seesSymbol (text : String) : Parser Bool := fun tokens =>
  .ok ((tokens.head?.map (Token.isSymbol text)).getD false, tokens)

/-- Whether no token is left. -/
def atEnd : Parser Bool := fun tokens => .ok (tokens.isEmpty, tokens)

/-- Consumes a keyword if it is next. -/
def keyword (k : String) : Parser Bool := fun tokens =>
  match tokens with
  | t :: rest => if t.isKeyword k then .ok (true, rest) else .ok (false, tokens)
  | [] => .ok (false, [])

/-- Drops keywords from the front of the tokens, if they are all there. -/
def dropKeywords : List String → List Token → Option (List Token)
  | [], tokens => some tokens
  | k :: ks, t :: rest => if t.isKeyword k then dropKeywords ks rest else none
  | _ :: _, [] => none

/-- Consumes some keywords if all of them are next. -/
def keywords (ks : List String) : Parser Bool := fun tokens =>
  match dropKeywords ks tokens with
  | some rest => .ok (true, rest)
  | none => .ok (false, tokens)

/-- Consumes one of some keywords if it is next. -/
def oneOf? (ks : List String) : Parser (Option String) := fun tokens =>
  match tokens with
  | .word _ k :: rest => if ks.contains k then .ok (some k, rest) else .ok (none, tokens)
  | _ => .ok (none, tokens)

/-- Consumes a symbol if it is next. -/
def symbol (text : String) : Parser Bool := fun tokens =>
  match tokens with
  | t :: rest => if t.isSymbol text then .ok (true, rest) else .ok (false, tokens)
  | [] => .ok (false, [])

def expectKeyword (k : String) : Parser Unit := do
  if ← keyword k then pure () else fail

def expectKeywords (ks : List String) : Parser Unit := do
  if ← keywords ks then pure () else fail

def expectOneOf (ks : List String) : Parser String := do
  match ← oneOf? ks with
  | some k => pure k
  | none => fail

def expectSymbol (text : String) : Parser Unit := do
  if ← symbol text then pure () else fail

/-- Reads something if it fits; otherwise consumes nothing. -/
def attempt (p : Parser α) : Parser (Option α) := fun tokens =>
  match p tokens with
  | .ok (a, rest) => .ok (some a, rest)
  | .error .unexpected => .ok (none, tokens)
  | .error .tooDeep => .error .tooDeep

/-- Reads something behind a keyword, if the keyword is next. -/
def after? (k : String) (p : Parser α) : Parser (Option α) := do
  if ← keyword k then some <$> p else pure none

/-- Reads something behind keywords, if they are next; gives whether they are. -/
def clause (ks : List String) (p : Parser α) : Parser Bool := do
  if ← keywords ks then
    let _ ← p
    pure true
  else pure false

/-- Reads something between parentheses. -/
def parenthesized (p : Parser α) : Parser α := do
  expectSymbol "("
  let a ← p
  expectSymbol ")"
  pure a

/-- The items behind those already read (latest first), with commas between
them. Every round consumes a token, so `bound` is the number of tokens. -/
def commaSeparatedFrom (p : Parser α) : (bound : Nat) → (read : List α) → Parser (List α)
  | 0, _ => fail
  | bound + 1, read => do
      let a ← p
      if ← symbol "," then commaSeparatedFrom p bound (a :: read)
      else pure (a :: read).reverse

/-- One or more items with commas between them. -/
def commaSeparated (p : Parser α) : Parser (List α) := do
  commaSeparatedFrom p ((← remaining) + 1) []

/-- Items with commas between them, of which there are none if a closing symbol
comes next. -/
def commaSeparatedBefore (closing : String) (p : Parser α) : Parser (List α) := do
  if ← seesSymbol closing then pure [] else commaSeparated p

/-- Repeats a step until it gives nothing. -/
def repeatFrom (step : Parser (Option α)) : (bound : Nat) → (read : List α) → Parser (List α)
  | 0, read => pure read.reverse
  | bound + 1, read => do
      match ← step with
      | some a => repeatFrom step bound (a :: read)
      | none => pure read.reverse

/-- What a step gives until it gives nothing. -/
def many (step : Parser (Option α)) : Parser (List α) := do
  repeatFrom step ((← remaining) + 1) []

/-- Reads the first clause of a list that is there, and gives the others. -/
def oneClause : List (Parser Bool) → Parser (Option (List (Parser Bool)))
  | [] => pure none
  | c :: rest => do
      if ← c then pure (some rest)
      else
        match ← oneClause rest with
        | some others => pure (some (c :: others))
        | none => pure none

/-- Reads at most so many clauses of a list. -/
def clausesFrom : (bound : Nat) → List (Parser Bool) → Parser Unit
  | 0, _ => pure ()
  | bound + 1, clauses => do
      match ← oneClause clauses with
      | some others => clausesFrom bound others
      | none => pure ()

/-- Clauses in any order, each at most once. -/
def inAnyOrder (clauses : List (Parser Bool)) : Parser Unit :=
  clausesFrom clauses.length clauses

/-! ## Names -/

/-- An identifier: a word, or a text between single quotes. -/
def identifier : Parser Ident := do
  match ← next? with
  | some (.word text _) => pure ⟨text, false⟩
  | some (.quotedWord text) => pure ⟨text, true⟩
  | some (.singleQuoted text) => pure ⟨text, true⟩
  | _ => fail

/-- The parts of a name behind those already read (latest first). -/
def nameFrom : (bound : Nat) → (read : List Ident) → Parser (List Ident)
  | 0, _ => fail
  | bound + 1, read => do
      let i ← identifier
      if ← symbol "." then nameFrom bound (i :: read) else pure (i :: read).reverse

/-- A name: identifiers with points between them. -/
def name : Parser (List Ident) := do
  nameFrom ((← remaining) + 1) []

/-- Names of columns between parentheses. -/
def columnList : Parser (List Ident) :=
  parenthesized (commaSeparated identifier)

/-- Consumes a token; gives whether it is an identifier. -/
def skipIdentifier : Parser Bool := do
  match ← next? with
  | some (.word _ _) | some (.quotedWord _) | some (.singleQuoted _) => pure true
  | _ => pure false

/-- Consumes a name as far as it goes, and the token that breaks it off. -/
def skipNameFrom : (bound : Nat) → Parser Unit
  | 0 => pure ()
  | bound + 1 => do
      if ← skipIdentifier then
        if ← symbol "." then skipNameFrom bound

/-- Consumes a name as far as it goes. -/
def skipName : Parser Unit := do
  skipNameFrom ((← remaining) + 1)

/-- A text where a literal is asked for: a word that is no keyword counts. -/
def literalText : Parser String := do
  match ← next? with
  | some (.word text k) => if allKeywords.contains k then fail else pure text
  | some (.quotedWord s) | some (.singleQuoted s) | some (.escaped s) | some (.unicode s) => pure s
  | _ => fail

/-- Names of columns between parentheses, if there are any. -/
def optionalColumnList : Parser Unit := do
  if ← seesSymbol "(" then
    let _ ← columnList

end Parser

end QueryAdvisor.Sql
