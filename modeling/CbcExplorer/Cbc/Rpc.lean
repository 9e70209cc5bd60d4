import Mathlib.Data.List.Basic

set_option autoImplicit false

namespace CbcExplorer

inductive Json where
  | null
  | bool (b : Bool)
  | num (n : Int)
  | str (s : String)
  | arr (items : List Json)
  | obj (fields : List (String × Json))
  deriving Repr, Inhabited

def Json.kind : Json → String
  | .null => "null"
  | .bool _ => "bool"
  | .num _ => "number"
  | .str _ => "string"
  | .arr _ => "array"
  | .obj _ => "object"

structure RPCRequest where
  id : Int
  jsonrpc : String
  method : String
  params : List Json
  deriving Repr

structure RPCError where
  code : Int
  message : String
  deriving Repr

structure RPCResponse where
  id : Int
  jsonrpc : String
  result : Option Json
  error : Option RPCError
  deriving Repr

structure RuntimeVersion where
  specName : String := ""
  specVersion : Int := 0
  deriving DecidableEq, Repr

inductive GoType where
  | string
  | int
  | interfaceSlices
  deriving DecidableEq, Repr

def GoType.name : GoType → String
  | .string => "string"
  | .int => "int"
  | .interfaceSlices => "[][]interface {}"

-- 2^1024 - 2^970, the least integer strconv.ParseFloat rounds to infinity
def floatOverflow : Nat :=
  179769313486231580793728971405303415079934132710037826936173778980444968292764750946649017977587207096330286416692887910946555547851940402630657488671505820681908902000708383676273854845817711531764475730270069855571366959622842914819860834936475292719074168444365510704342711559699508093042880177904174497792

set_option exponentiation.threshold 1024 in
example : floatOverflow = 2 ^ 1024 - 2 ^ 970 := by decide

mutual

def Json.hugeNumber : Json → Option Int
  | .num n => if n.natAbs < floatOverflow then none else some n
  | .arr items => Json.hugeNumberIn items
  | .obj fields => Json.hugeNumberAt fields
  | _ => none

def Json.hugeNumberIn : List Json → Option Int
  | [] => none
  | j :: js => (Json.hugeNumber j).orElse fun _ => Json.hugeNumberIn js

def Json.hugeNumberAt : List (String × Json) → Option Int
  | [] => none
  | (_, j) :: js => (Json.hugeNumber j).orElse fun _ => Json.hugeNumberAt js

end

-- the value and the Go type `json.Unmarshal` names when it cannot store `j` in a field of
-- type `t`; `null` leaves a field as it is
def GoType.refusal : GoType → Json → Option (String × String)
  | _, .null => none
  | .string, .str _ => none
  | .int, .num n =>
    if -9223372036854775808 ≤ n ∧ n ≤ 9223372036854775807 then none
    else some ("number " ++ toString n, "int")
  | .interfaceSlices, .arr items => items.findSome? fun
      | .null => none
      | .arr inner => (Json.hugeNumberIn inner).map fun n => ("number " ++ toString n, "float64")
      | j => some (j.kind, "[]interface {}")
  | t, j => some (j.kind, t.name)

def runtimeVersionFields : List (String × GoType) :=
  [("specName", .string), ("implName", .string), ("authoringVersion", .int),
    ("specVersion", .int), ("implVersion", .int), ("apis", .interfaceSlices),
    ("transactionVersion", .int), ("stateVersion", .int)]

-- encoding/json folds ASCII letters to upper case and every other character to the least of
-- its simple case orbit; the only ones whose orbit holds an ASCII letter are U+017F and U+212A
def foldKeyChar (c : Char) : Char :=
  if c = '\u017F' then 'S' else if c = '\u212A' then 'K' else c.toUpper

-- exact against the tags of `RuntimeVersion`, which are ASCII
def keyMatches (key tag : String) : Bool :=
  key.data.map foldKeyChar == tag.data.map foldKeyChar

def fieldOf (key : String) : Option (String × GoType) :=
  runtimeVersionFields.find? fun field => keyMatches key field.1

def typeError (tag : String) (refused : String × String) : String :=
  "json: cannot unmarshal " ++ refused.1 ++ " into Go struct field RuntimeVersion." ++ tag ++
    " of type " ++ refused.2

def RuntimeVersion.store (v : RuntimeVersion) (tag : String) : Json → RuntimeVersion
  | .str s => if tag = "specName" then { v with specName := s } else v
  | .num n => if tag = "specVersion" then { v with specVersion := n } else v
  | _ => v

-- a later member overwrites an earlier one, and the first type error is kept
def unmarshalMember (acc : RuntimeVersion × Option String) (member : String × Json) :
    RuntimeVersion × Option String :=
  match fieldOf member.1 with
  | none => acc
  | some (tag, type) =>
    match type.refusal member.2 with
    | none => (acc.1.store tag member.2, acc.2)
    | some refused => (acc.1, acc.2 <|> some (typeError tag refused))

def unmarshalRuntimeVersion : Option Json → Except String RuntimeVersion
  | none => .error "unexpected end of JSON input"
  | some .null => .ok {}
  | some (.obj members) =>
    match members.foldl unmarshalMember ({}, none) with
    | (_, some err) => .error err
    | (version, none) => .ok version
  | some j => .error ("json: cannot unmarshal " ++ j.kind ++ " into Go value of type cbc.RuntimeVersion")

def unmarshalString : Option Json → Except String String
  | none => .error "unexpected end of JSON input"
  | some .null => .ok ""
  | some (.str s) => .ok s
  | some j => .error ("json: cannot unmarshal " ++ j.kind ++ " into Go value of type string")

def unmarshalMap : Option Json → Except String Unit
  | none => .error "unexpected end of JSON input"
  | some .null | some (.obj _) => .ok ()
  | some j => .error ("json: cannot unmarshal " ++ j.kind ++
      " into Go value of type map[string]interface {}")

inductive Body where
  | readFailed (err : String)
  | malformed (err : String)
  | envelope (resp : RPCResponse)
  deriving Repr

inductive HttpAnswer where
  | requestFailed (err : String)
  | transportFailed (err : String)
  | reply (statusCode : Nat) (body : Body)
  deriving Repr

def statusOK : Nat := 200

@[simp] theorem unmarshalString_str (s : String) : unmarshalString (some (.str s)) = .ok s := rfl

@[simp] theorem fieldOf_specName : fieldOf "specName" = some ("specName", .string) := rfl

@[simp] theorem fieldOf_specVersion : fieldOf "specVersion" = some ("specVersion", .int) := rfl

theorem refusal_int {n : Int} (fits : -9223372036854775808 ≤ n ∧ n ≤ 9223372036854775807) :
    GoType.int.refusal (.num n) = none :=
  if_pos fits

def memberError (member : String × Json) : Option String :=
  (fieldOf member.1).bind fun field => (field.2.refusal member.2).map (typeError field.1)

theorem unmarshalMember_error (acc : RuntimeVersion × Option String) (member : String × Json) :
    (unmarshalMember acc member).2 = (acc.2 <|> memberError member) := by
  unfold unmarshalMember memberError
  split
  · next found => simp [found]
  · next tag type found => split <;> simp [found, *]

theorem foldl_unmarshalMember_error (acc : RuntimeVersion × Option String)
    (members : List (String × Json)) :
    (members.foldl unmarshalMember acc).2 = (acc.2 <|> members.findSome? memberError) := by
  induction members generalizing acc with
  | nil =>
    obtain ⟨v, e⟩ := acc
    cases e <;> rfl
  | cons member members ih =>
    rw [List.foldl_cons, ih, unmarshalMember_error, List.findSome?_cons]
    cases acc.2 <;> cases memberError member <;> rfl

theorem unmarshalMember_other (acc : RuntimeVersion × Option String) {member : String × Json}
    (other : keyMatches member.1 "specName" = false ∧ keyMatches member.1 "specVersion" = false) :
    (unmarshalMember acc member).1 = acc.1 := by
  unfold unmarshalMember
  split
  · rfl
  · next tag type found =>
    have named := List.find?_some found
    have notName : tag ≠ "specName" := by rintro rfl; simp [other.1] at named
    have notVersion : tag ≠ "specVersion" := by rintro rfl; simp [other.2] at named
    split
    · cases member.2 <;> simp [RuntimeVersion.store, notName, notVersion]
    · rfl

theorem foldl_unmarshalMember_others (acc : RuntimeVersion × Option String)
    (others : List (String × Json))
    (other : ∀ m ∈ others, keyMatches m.1 "specName" = false ∧ keyMatches m.1 "specVersion" = false) :
    (others.foldl unmarshalMember acc).1 = acc.1 := by
  induction others generalizing acc with
  | nil => rfl
  | cons m ms ih =>
    rw [List.foldl_cons, ih _ fun m' h => other m' (List.mem_cons_of_mem _ h),
      unmarshalMember_other _ (other m (List.mem_cons_self _ _))]

def reportedExtras : List (String × Json) :=
  [("implName", .str "cbc-node"), ("authoringVersion", .num 1), ("implVersion", .num 1),
    ("apis", .arr [.arr [.str "0xdf6acb689907609b", .num 5], .arr [.str "0x37e397fc7c91f5e4", .num 2]]),
    ("transactionVersion", .num 1), ("stateVersion", .num 1)]

example : unmarshalRuntimeVersion (some (.obj [("specName", .str "cbc-chain"),
    ("specVersion", .num 9223372036854775808)])) = .error ("json: cannot unmarshal number " ++
      "9223372036854775808 into Go struct field RuntimeVersion.specVersion of type int") :=
  rfl

example : unmarshalRuntimeVersion (some (.obj [("\u017FpecVersion", .num 100)])) =
    .ok ⟨"", 100⟩ :=
  rfl

end CbcExplorer
