import ClientForge.Number.Binary64
import ClientForge.Number.Calendar

/-!
Documents: what a JSON or YAML text says. Mappings keep the order of their entries, and their keys are scalars.
A value may hold itself; then it is a knot, and it is opened before one looks at what it holds.
-/

namespace ClientForge

inductive Scalar
  | null
  | bool (b : Bool)
  | int (n : Int)
  | real (x : Binary64)
  | text (s : String)
  | bytes (data : List UInt8)
  | date (d : Date)
  | moment (m : Moment)
deriving DecidableEq, Repr, Inhabited

/-- What decides whether two scalars are one key: numbers go by value, truth values being 0 and 1, and moments
with an offset by universal time. -/
inductive Key
  | null
  | whole (n : Int)
  | real (x : Binary64)
  | text (s : String)
  | bytes (data : List UInt8)
  | date (d : Date)
  | moment (m : Moment)
  | universal (micros : Int)
deriving DecidableEq, Repr

def Scalar.key : Scalar → Key
  | .null => .null
  | .bool b => .whole (if b then 1 else 0)
  | .int n => .whole n
  | .real x => match x.toInt? with
    | some n => .whole n
    | none => .real x
  | .text s => .text s
  | .bytes data => .bytes data
  | .date d => .date d
  | .moment m => if m.offset.isSome then .universal m.micros else .moment m

theorem Scalar.key_eq_text_iff (s : Scalar) (name : String) : s.key = .text name ↔ s = .text name := by
  cases s with
  | real x => simp only [key]; split <;> simp
  | moment m => simp only [key]; split <;> simp
  | _ => simp [key]

/-- Inside of `knot label whole` the value `again label` stands for all of it. Knots of one label are one value. -/
inductive Document
  | scalar (s : Scalar)
  | list (items : List Document)
  | map (entries : List (Scalar × Document))
  | set (members : List Scalar)
  | pair (first second : Document)
  | knot (label : Nat) (whole : Document)
  | again (label : Nat)
deriving Inhabited, Repr

abbrev Entries := List (Scalar × Document)

namespace Entries

def get? (entries : Entries) (name : String) : Option Document :=
  (entries.find? fun e => e.1 == .text name).map (·.2)

def has (entries : Entries) (name : String) : Bool := (get? entries name).isSome

def insert (entries : Entries) (k : Scalar) (v : Document) : Entries :=
  match entries with
  | [] => [(k, v)]
  | e :: rest => if e.1.key = k.key then (e.1, v) :: rest else e :: insert rest k v

def ofList (entries : List (Scalar × Document)) : Entries :=
  entries.foldl (fun m e => insert m e.1 e.2) []

def keys (entries : Entries) : List Scalar := entries.map (·.1)

theorem get?_cons (e : Scalar × Document) (rest : Entries) (name : String) :
    get? (e :: rest) name = if e.1 = .text name then some e.2 else get? rest name := by
  by_cases h : e.1 = .text name <;> simp [get?, h]

theorem get?_insert (entries : Entries) (k name : String) (v : Document) :
    get? (insert entries (.text k) v) name = if k = name then some v else get? entries name := by
  have hk : (Scalar.text k).key = .text k := rfl
  induction entries with
  | nil => simp [insert, get?]
  | cons e rest ih =>
    rw [insert, hk, get?_cons]
    simp only [Scalar.key_eq_text_iff]
    by_cases h : e.1 = .text k
    · by_cases hn : k = name <;> simp [get?_cons, h, hn]
    · rw [if_neg h, get?_cons, ih]
      by_cases hn : k = name
      · subst hn
        simp [h]
      · simp [hn]

end Entries

namespace Document

@[match_pattern] abbrev null : Document := .scalar .null
@[match_pattern] abbrev bool (b : Bool) : Document := .scalar (.bool b)
@[match_pattern] abbrev int (n : Int) : Document := .scalar (.int n)
@[match_pattern] abbrev real (x : Binary64) : Document := .scalar (.real x)
@[match_pattern] abbrev text (s : String) : Document := .scalar (.text s)

def isNull : Document → Bool
  | .null => true
  | _ => false

def isGiven : Document → Bool
  | .scalar .null => false
  | .scalar (.bool b) => b
  | .scalar (.int n) => n ≠ 0
  | .scalar (.real x) => !x.isZero
  | .scalar (.text s) => s ≠ ""
  | .scalar (.bytes data) => data ≠ []
  | .scalar _ => true
  | .list items => !items.isEmpty
  | .map entries => !entries.isEmpty
  | .set members => !members.isEmpty
  | _ => true

mutual

def depth : Document → Nat
  | .list items => itemsDepth items + 1
  | .map entries => entriesDepth entries + 1
  | .pair a b => max (depth a) (depth b) + 1
  | .knot _ whole => depth whole
  | _ => 1

def itemsDepth : List Document → Nat
  | [] => 0
  | d :: rest => max (depth d) (itemsDepth rest)

def entriesDepth : List (Scalar × Document) → Nat
  | [] => 0
  | (_, d) :: rest => max (depth d) (entriesDepth rest)

end

mutual

def close (values : List (Nat × Document)) : Document → Document
  | .list items => .list (closeItems values items)
  | .map entries => .map (closeEntries values entries)
  | .pair a b => .pair (close values a) (close values b)
  | .knot label whole => .knot label (close (values.filter (·.1 ≠ label)) whole)
  | .again label => (values.lookup label).getD (.again label)
  | d => d

def closeItems (values : List (Nat × Document)) : List Document → List Document
  | [] => []
  | d :: rest => close values d :: closeItems values rest

def closeEntries (values : List (Nat × Document)) : List (Scalar × Document) → List (Scalar × Document)
  | [] => []
  | (k, d) :: rest => (k, close values d) :: closeEntries values rest

end

def opened : Document → Document
  | .knot label whole => whole.close [(label, .knot label whole)]
  | d => d

mutual

def knots : Document → Nat
  | .list items => itemKnots items
  | .map entries => entryKnots entries
  | .pair a b => knots a + knots b
  | .knot _ whole => knots whole + 1
  | _ => 0

def itemKnots : List Document → Nat
  | [] => 0
  | d :: rest => knots d + itemKnots rest

def entryKnots : List (Scalar × Document) → Nat
  | [] => 0
  | (_, d) :: rest => knots d + entryKnots rest

end

def field (entries : Entries) (name : String) : Document := (entries.get? name).getD .null

end Document

end ClientForge
