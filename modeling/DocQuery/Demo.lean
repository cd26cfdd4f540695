import DocQuery.Query.Sieve
/-!
A demonstration: queries about a few people, queries about dates, selectors, an added operator, and the
order in which expressions are tried. Each part is a list of lines; the heading is followed by an empty
line.
-/
namespace DocQuery.Demo

private def text (s : String) : Value := .string s

private def whole (n : Int) : Value := .number (Number.ofInt n)

private def texts (list : List String) : Value := .array (list.map text)

private def wholes (list : List Int) : Value := .array (list.map whole)

private def one (key : String) (v : Value) : Value := Value.singleton key v

def people : List Value :=
  [.object [("name", text "craig"), ("age", whole 90001), ("tags", texts ["admin", "ops"]),
      ("address", one "city" (text "minneapolis"))],
    .object [("name", text "tim"), ("age", whole 33), ("tags", texts ["ops"]),
      ("address", one "city" (text "st. paul"))],
    .object [("name", text "liz"), ("age", whole 27), ("tags", texts [])]]

/-- A text with blanks after it up to a width. -/
def padRight (width : Nat) (s : String) : String :=
  s ++ String.ofList (List.replicate (width - s.length) ' ')

/-- No predicate occurs in the demonstration. -/
def noAnswers : Answers := fun _ _ => false

/-- What is shown of an item: its name, if it has one. -/
def itemName (item : Value) : String := ((item.get? "name").getD item).display

/-- The line about a query: its title, the query, and the items that it keeps or why it is refused. -/
def queryLine (registry : Registry) (title : String) (query : Value) (items : List Value) : String :=
  let start := "  " ++ padRight 28 title ++ " " ++ query.display ++ " => "
  match Sieve.ofQuery registry query .identity with
  | .ok sieve =>
    let kept := (sieve.filter noAnswers items).value
    start ++ "[" ++ String.intercalate ", " (kept.map itemName) ++ "]"
  | .error e => start ++ "error: " ++ e.message

def filtering (registry : Registry) : List String :=
  let line title query := queryLine registry title query people
  ["--- Filtering ---",
    line "age below 100" (one "age" (one "$lt" (whole 100))),
    line "tag present" (one "tags" (text "ops")),
    line "nested field" (one "address.city" (text "st. paul")),
    line "missing field" (one "address" (one "$exists" (.bool false))),
    ""]

def operators (registry : Registry) : List String :=
  let line title query := queryLine registry title query people
  ["--- Operators ---",
    line "$in" (one "name" (one "$in" (texts ["tim", "liz"]))),
    line "$all" (one "tags" (one "$all" (texts ["ops", "admin"]))),
    line "$size" (one "tags" (one "$size" (whole 0))),
    line "$regex" (one "name" (one "$regex" (text "^c"))),
    line "$or" (one "$or" (.array [one "age" (whole 27), one "name" (text "craig")])),
    line "$not" (one "age" (one "$not" (one "$gt" (whole 30)))),
    line "unknown operator" (one "$near" (whole 1)),
    ""]

def dayMillis : Int := 86400000

def dates (registry : Registry) : List String :=
  let day (n : Int) : Option Value := (Instant.ofEpochMillis? (n * dayMillis)).map .date
  let events := ([0, 1, 2, 3].filterMap day).map (one "at")
  let query := one "at" (one "$gte" ((day 2).getD .null))
  let line := match Sieve.ofQuery registry query .identity with
    | .ok sieve =>
      "  events on or after day 2: " ++
        String.ofList (Numeral.decimal (sieve.filter noAnswers events).value.length)
    | .error e => "  error: " ++ e.message
  ["--- Dates ---", line, ""]

def selectors (registry : Registry) : List String :=
  let found := do
    let selector ← Selector.ofPath "address.city"
    let sieve ← Sieve.ofQuery registry (one "$regex" (text "^min")) selector
    return (sieve.filter noAnswers people).value.length
  let lines := match found with
    | .ok n => ["  city starts with 'min': " ++ String.ofList (Numeral.decimal n)]
    | .error _ => []
  "--- Selectors ---" :: (lines ++ [""])

private def liesBetween (low high : Value) (n : Number) : Bool :=
  (match low.number? with
    | some low => (n.compare? low).any (· != .lt)
    | none => false) &&
  (match high.number? with
    | some high => (n.compare? high).any (· != .gt)
    | none => false)

def between : CustomOperator where
  name := "between"
  traversable := false
  prepare? := none
  evaluate operand candidate _ :=
    match operand, candidate with
    | .value (.array [low, high]), .number n => .answer (liesBetween low high n)
    | _, _ => .answer false

def customOperator (registry : Registry) : List String :=
  ["--- Custom operator ---",
    queryLine (registry.register between) "$between" (one "age" (one "$between" (wholes [20, 30]))) people,
    ""]

def ordering (registry : Registry) : List String :=
  let query := .object [("$or", .array [one "a" (whole 1), one "b" (whole 2)]),
    ("tags", one "$in" (texts ["x", "y"])), ("name", text "tim")]
  let lines := match Query.compile registry {} query with
    | .ok statement => statement.expressions.map fun e =>
      "  " ++ padRight 6 e.operatorName ++ " " ++ padRight 8 (e.field?.getD "") ++ " cost " ++
        String.ofList (Numeral.decimal e.cost)
    | .error _ => []
  "--- Evaluation order ---" :: lines

/-- The whole demonstration. -/
def all (registry : Registry) : List String :=
  "=== jsonsift Demo ===\n" :: (filtering registry ++ operators registry ++ dates registry ++
    selectors registry ++ customOperator registry ++ ordering registry)

end DocQuery.Demo
