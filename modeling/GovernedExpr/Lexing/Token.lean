/-!
# Tokens

* `TokenKind` are the five kinds of tokens, each with an upper-case name;
* `Token` is a classified lexeme with its place;
* `TokenStream` keeps tokens in order.  The stream owns the places of its tokens: the token at
  index `i` is put on line 1 at column `i + 1`, whatever place it came with.
-/

namespace GovernedExpr

/-- The kinds of tokens. -/
inductive TokenKind
  | identifier
  | number
  | operator
  | whitespace
  | unknown
  deriving DecidableEq, Inhabited

namespace TokenKind

/-- The upper-case name of a kind. -/
def name : TokenKind → String
  | identifier => "IDENTIFIER"
  | number => "NUMBER"
  | operator => "OPERATOR"
  | whitespace => "WHITESPACE"
  | unknown => "UNKNOWN"

/-- The kind with an upper-case name. -/
def ofName? (name : String) : Option TokenKind :=
  if name = "IDENTIFIER" then some identifier
  else if name = "NUMBER" then some number
  else if name = "OPERATOR" then some operator
  else if name = "WHITESPACE" then some whitespace
  else if name = "UNKNOWN" then some unknown
  else none

@[simp] theorem ofName?_name (k : TokenKind) : ofName? k.name = some k := by
  cases k <;> decide

theorem ofName?_eq_some_iff {name : String} {k : TokenKind} :
    ofName? name = some k ↔ k.name = name := by
  constructor
  · intro h
    unfold ofName? at h
    grind [TokenKind.name]
  · rintro rfl
    exact ofName?_name k

end TokenKind

/-- A classified lexeme.  The column is an ordinal of tokens, not of characters. -/
structure Token where
  kind : TokenKind
  value : String
  line : Nat
  column : Nat
  priority : Int
  deriving DecidableEq, Inhabited

/-- The same token on line 1 at another column. -/
def Token.atColumn (t : Token) (column : Nat) : Token :=
  { t with line := 1, column := column }

/-- Tokens in the order of the input. -/
structure TokenStream where
  tokens : List Token
  deriving DecidableEq, Inhabited

namespace TokenStream

/-- The stream without tokens. -/
def empty : TokenStream := ⟨[]⟩

/-- Append a token, which takes the place after the last one. -/
def push (s : TokenStream) (t : Token) : TokenStream :=
  ⟨s.tokens ++ [t.atColumn (s.tokens.length + 1)]⟩

/-- The stream of the given tokens, each put in its place. -/
def ofList (ts : List Token) : TokenStream :=
  ⟨ts.mapIdx fun i t => t.atColumn (i + 1)⟩

/-- The number of tokens. -/
def length (s : TokenStream) : Nat :=
  s.tokens.length

/-- Whether there are no tokens. -/
def isEmpty (s : TokenStream) : Bool :=
  s.tokens.isEmpty

/-- The token at an index. -/
def get? (s : TokenStream) (index : Nat) : Option Token :=
  s.tokens[index]?

/-- The values of the tokens. -/
def values (s : TokenStream) : List String :=
  s.tokens.map Token.value

@[simp] theorem ofList_nil : ofList [] = empty := rfl

/-- A stream of tokens is built by pushing them one after the other. -/
theorem ofList_append_singleton (ts : List Token) (t : Token) :
    ofList (ts ++ [t]) = (ofList ts).push t := by
  simp [ofList, push, List.mapIdx_append]

end TokenStream

end GovernedExpr
