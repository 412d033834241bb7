import Mathlib.Tactic.Common
import Mathlib.Algebra.Ring.Nat
import Mathlib.Algebra.Ring.Int.Defs

/-!
# Overrides from the environment (`server/environment.go`)

`applyEnvOverrides` walks a configuration by reflection and sets every field whose
variable is in the environment.  A configuration is a tree of fields here, with the
type of a nil pointer kept as the zero value it points to once it is allocated.  The
parsers of floats, durations and JSON are parameters.

`setFieldFromEnv` allocates nil pointers before it parses, so a field whose variable
does not parse is changed although it is not reported.
-/

namespace CallsPlugin.Ports.Environment

/-! ## Values -/

/-- The values of `setFieldFromEnv`; `other` is of a kind that it does not handle. -/
inductive Scalar (F C : Type) where
  | string (s : String)
  | bool (b : Bool)
  | int (bits : Nat) (n : Int)
  | duration (n : Int)
  | uint (bits : Nat) (n : Nat)
  | float (bits : Nat) (x : F)
  | iceServers (configs : C)
  | strings (values : List String)
  | other (text : String)

/-- What reflection says of a field; one that cannot be set is not exported. -/
structure StructField where
  name : String
  canSet : Bool
  anonymous : Bool

mutual

/-- A value; `nil` is a nil pointer with the zero value of what it would point to. -/
inductive Value (F C : Type) where
  | scalar (x : Scalar F C)
  | nil (zero : Value F C)
  | ptr (target : Value F C)
  | struct (fields : Fields F C)

/-- The fields of a struct. -/
inductive Fields (F C : Type) where
  | nil
  | cons (f : StructField) (v : Value F C) (rest : Fields F C)

end

/-- The parsers of the standard library that are not spelt out. -/
structure Parsers (F C : Type) where
  parseFloat : String → Option F
  overflowFloat : Nat → F → Bool
  parseDuration : String → Option Int
  unmarshalICEServers : String → Option C

/-! ## Parsing -/

/-- `strconv.ParseBool` -/
def parseBool (s : String) : Option Bool :=
  if s ∈ ["1", "t", "T", "true", "TRUE", "True"] then some true
  else if s ∈ ["0", "f", "F", "false", "FALSE", "False"] then some false
  else none

/-- A number of decimal digits, at least one. -/
def parseDigits (digits : List Char) : Option Nat :=
  if digits ≠ [] ∧ digits.all Char.isDigit then
    some (digits.foldl (fun n c => 10 * n + (c.toNat - '0'.toNat)) 0)
  else none

/-- `strconv.ParseUint(s, 10, 64)` -/
def parseUint (s : String) : Option Nat :=
  (parseDigits s.toList).filter fun n => n < 2 ^ 64

/-- `strconv.ParseInt(s, 10, 64)` -/
def parseInt (s : String) : Option Int :=
  match s.toList with
  | '-' :: digits =>
      ((parseDigits digits).filter fun n => n ≤ 2 ^ 63).map fun n => -(n : Int)
  | '+' :: digits => ((parseDigits digits).filter fun n => n < 2 ^ 63).map Int.ofNat
  | digits => ((parseDigits digits).filter fun n => n < 2 ^ 63).map Int.ofNat

/-- `OverflowInt` -/
def overflowInt (bits : Nat) (n : Int) : Bool :=
  n < -2 ^ (bits - 1) || 2 ^ (bits - 1) ≤ n

/-- `OverflowUint` -/
def overflowUint (bits n : Nat) : Bool := 2 ^ bits ≤ n

/-- `unicode.IsSpace` -/
def isSpace (c : Char) : Bool :=
  c.toNat ∈ [9, 10, 11, 12, 13, 32, 0x85, 0xA0, 0x1680, 0x2028, 0x2029, 0x202F, 0x205F,
    0x3000] || (0x2000 ≤ c.toNat && c.toNat ≤ 0x200A)

/-- `strings.TrimSpace` -/
def trimSpace (s : String) : String :=
  String.ofList ((s.toList.dropWhile isSpace).reverse.dropWhile isSpace).reverse

variable {F C : Type} (P : Parsers F C)

/-- The parsers by kind. -/
def Scalar.parse (s : String) : Scalar F C → Option (Scalar F C)
  | string _ => some (string s)
  | bool _ => (parseBool s).map bool
  | int bits _ => ((parseInt s).filter fun n => !overflowInt bits n).map (int bits)
  | duration _ => (P.parseDuration s).map duration
  | uint bits _ => ((parseUint s).filter fun n => !overflowUint bits n).map (uint bits)
  | float bits _ =>
      ((P.parseFloat s).filter fun x => !P.overflowFloat bits x).map (float bits)
  | iceServers _ => (P.unmarshalICEServers s).map iceServers
  | strings _ => some (strings ((s.splitOn ",").map trimSpace))
  | other _ => none

/-- `setFieldFromEnv`: the field, and whether it was set. -/
def setFieldFromEnv (s : String) : Value F C → Value F C × Bool
  | .nil zero => (.ptr (setFieldFromEnv s zero).1, (setFieldFromEnv s zero).2)
  | .ptr target => (.ptr (setFieldFromEnv s target).1, (setFieldFromEnv s target).2)
  | .scalar x =>
      match x.parse P s with
      | some x' => (.scalar x', true)
      | none => (.scalar x, false)
  | .struct fields => (.struct fields, false)

/-! ## The walk -/

/-- `reFieldLowerToUpper` -/
def lowerToUpper : List Char → List Char
  | a :: b :: rest =>
      if (a.isLower || a.isDigit) && b.isUpper then a :: '_' :: lowerToUpper (b :: rest)
      else a :: lowerToUpper (b :: rest)
  | l => l

/-- `reFieldUpperToUpperLower` -/
def upperToUpperLower : List Char → List Char
  | a :: b :: c :: rest =>
      if a.isUpper && b.isUpper && c.isLower then
        a :: '_' :: upperToUpperLower (b :: c :: rest)
      else a :: upperToUpperLower (b :: c :: rest)
  | l => l

/-- `fieldNameToEnvKey` -/
def fieldNameToEnvKey (fieldName : String) : String :=
  String.ofList ((upperToUpperLower (lowerToUpper fieldName.toList)).map Char.toUpper)

example : fieldNameToEnvKey "RTCDServiceURL" = "RTCD_SERVICE_URL" := by decide

/-- The path of a field, its names from the outside; the map has them joined by dots,
which no name contains. -/
abbrev FieldPath := List String

/-- What the walk has to go by: `os.LookupEnv` and the prefix of the variables. -/
structure Environ where
  lookupEnv : String → Option String
  pre : String

variable (env : Environ)

/-- The variable of a field, if it is set. -/
def StructField.var (f : StructField) : Option String :=
  env.lookupEnv (env.pre ++ fieldNameToEnvKey f.name)

/-- The path of what a field contains; embedding adds nothing. -/
def StructField.within (f : StructField) (path : FieldPath) : FieldPath :=
  if f.anonymous then path else path ++ [f.name]

/-- A field that is no struct. -/
def processLeaf (path : FieldPath) (f : StructField) (v : Value F C) :
    Value F C × List (FieldPath × String) :=
  match f.var env with
  | none => (v, [])
  | some s =>
      if (setFieldFromEnv P s v).2 then
        ((setFieldFromEnv P s v).1, [(path ++ [f.name], s)])
      else ((setFieldFromEnv P s v).1, [])

mutual

/-- A field that can be set. -/
def processField (path : FieldPath) (f : StructField) :
    Value F C → Value F C × List (FieldPath × String)
  | .struct fields =>
      (.struct (processStructFields (f.within path) fields).1,
        (processStructFields (f.within path) fields).2)
  | .ptr (.struct fields) =>
      (.ptr (.struct (processStructFields (f.within path) fields).1),
        (processStructFields (f.within path) fields).2)
  | .nil (.struct fields) =>
      if f.anonymous then
        -- the embedded pointer is initialised whatever the environment holds
        (.ptr (.struct (processStructFields (f.within path) fields).1),
          (processStructFields (f.within path) fields).2)
      else processLeaf P env path f (.nil (.struct fields))
  | v => if f.anonymous then (v, []) else processLeaf P env path f v

/-- `processStructFields`: the fields, and what is added to the map. -/
def processStructFields (path : FieldPath) :
    Fields F C → Fields F C × List (FieldPath × String)
  | .nil => (.nil, [])
  | .cons f v rest =>
      if f.canSet then
        (.cons f (processField path f v).1 (processStructFields path rest).1,
          (processField path f v).2 ++ (processStructFields path rest).2)
      else (.cons f v (processStructFields path rest).1,
        (processStructFields path rest).2)

end

/-- The prefix with its underscore. -/
def normalized (pre : String) : String :=
  if pre ≠ "" ∧ pre.toList.getLast? ≠ some '_' then pre ++ "_" else pre

example : normalized "MM_CALLS" = "MM_CALLS_" := by decide

/-- `applyEnvOverrides`; anything but a pointer to a struct is an error that is
logged. -/
def applyEnvOverrides (lookupEnv : String → Option String) (pre : String) :
    Value F C → Value F C × List (FieldPath × String)
  | .ptr (.struct fields) =>
      (.ptr (.struct (processStructFields P ⟨lookupEnv, normalized pre⟩ [] fields).1),
        (processStructFields P ⟨lookupEnv, normalized pre⟩ [] fields).2)
  | config => (config, [])

/-! ## What is expected -/

/-- The value of the same type that a string is parsed as. -/
def Value.parse (s : String) : Value F C → Option (Value F C)
  | .nil zero => (zero.parse s).map .ptr
  | .ptr target => (target.parse s).map .ptr
  | .scalar x => (x.parse P s).map .scalar
  | .struct _ => none

/-- A nil pointer, or one that leads to one. -/
def Value.HasNil : Value F C → Prop
  | .nil _ => True
  | .ptr target => target.HasNil
  | _ => False

/-- A field that is reported has the value of its variable, and every other one the
value it had. -/
def LeafApplied (reported : List FieldPath) (path : FieldPath) (f : StructField)
    (v v' : Value F C) : Prop :=
  if path ++ [f.name] ∈ reported then ∃ s, f.var env = some s ∧ v.parse P s = some v'
  else v' = v

/-- The condition on a field: where its variable does not parse, it is no nil pointer,
and no field of the same path is set. -/
def LeafCond (settable : List FieldPath) (path : FieldPath) (f : StructField)
    (v : Value F C) :
    Prop :=
  ∀ s, f.var env = some s → v.parse P s = none →
    ¬ v.HasNil ∧ path ++ [f.name] ∉ settable

mutual

/-- The paths of the fields of a struct that are no structs. -/
def fieldPaths (path : FieldPath) (f : StructField) : Value F C → List FieldPath
  | .struct fields => leafPaths (f.within path) fields
  | .ptr (.struct fields) => leafPaths (f.within path) fields
  | .nil (.struct fields) =>
      if f.anonymous then leafPaths (f.within path) fields else [path ++ [f.name]]
  | _ => if f.anonymous then [] else [path ++ [f.name]]

def leafPaths (path : FieldPath) : Fields F C → List FieldPath
  | .nil => []
  | .cons f v rest =>
      (if f.canSet then fieldPaths path f v else []) ++ leafPaths path rest

end

mutual

/-- What is expected of a field; an embedded nil pointer stays nil unless one of the
fields behind it is reported. -/
def FieldApplied (reported : List FieldPath) (path : FieldPath) (f : StructField) :
    Value F C → Value F C → Prop
  | .struct fields, v' =>
      ∃ fields', v' = .struct fields' ∧ Applied reported (f.within path) fields fields'
  | .ptr (.struct fields), v' =>
      ∃ fields', v' = .ptr (.struct fields') ∧
        Applied reported (f.within path) fields fields'
  | .nil (.struct fields), v' =>
      if f.anonymous then
        (v' = .nil (.struct fields) ∧ ∀ p ∈ leafPaths (f.within path) fields,
          p ∉ reported) ∨ ((∃ p ∈ leafPaths (f.within path) fields, p ∈ reported) ∧
            ∃ fields', v' = .ptr (.struct fields') ∧
              Applied reported (f.within path) fields fields')
      else LeafApplied P env reported path f (.nil (.struct fields)) v'
  | v, v' => if f.anonymous then v' = v else LeafApplied P env reported path f v v'

/-- What is expected of the fields of a struct: the reported ones have the values of
their variables, and the others are as they were. -/
def Applied (reported : List FieldPath) (path : FieldPath) : Fields F C → Fields F C →
    Prop
  | .nil, fields' => fields' = .nil
  | .cons f v rest, fields' => ∃ v' rest', fields' = .cons f v' rest' ∧
      (if f.canSet then FieldApplied reported path f v v' else v' = v) ∧
        Applied reported path rest rest'

end

mutual

/-- The condition on a field; of an embedded nil pointer, one of the fields behind it
can be set. -/
def FieldCond (settable : List FieldPath) (path : FieldPath) (f : StructField) :
    Value F C → Prop
  | .struct fields => Cond settable (f.within path) fields
  | .ptr (.struct fields) => Cond settable (f.within path) fields
  | .nil (.struct fields) =>
      if f.anonymous then
        (∃ p ∈ leafPaths (f.within path) fields, p ∈ settable) ∧
          Cond settable (f.within path) fields
      else LeafCond P env settable path f (.nil (.struct fields))
  | v => if f.anonymous then True else LeafCond P env settable path f v

/-- The condition on the fields of a struct. -/
def Cond (settable : List FieldPath) (path : FieldPath) : Fields F C → Prop
  | .nil => True
  | .cons f v rest =>
      (if f.canSet then FieldCond settable path f v else True) ∧ Cond settable path rest

end

/-- The path of a field whose variable is set and parses. -/
def settableLeaf (path : FieldPath) (f : StructField) (v : Value F C) :
    List FieldPath :=
  match f.var env with
  | none => []
  | some s => if (v.parse P s).isSome then [path ++ [f.name]] else []

mutual

def settableField (path : FieldPath) (f : StructField) : Value F C → List FieldPath
  | .struct fields => settable (f.within path) fields
  | .ptr (.struct fields) => settable (f.within path) fields
  | .nil (.struct fields) =>
      if f.anonymous then settable (f.within path) fields
      else settableLeaf P env path f (.nil (.struct fields))
  | v => if f.anonymous then [] else settableLeaf P env path f v

/-- The paths of the fields whose variables are set and parse. -/
def settable (path : FieldPath) : Fields F C → List FieldPath
  | .nil => []
  | .cons f v rest =>
      (if f.canSet then settableField path f v else []) ++ settable path rest

end

/-! ## One field -/

variable {P env}

/-- A nil pointer is allocated down to what it points to. -/
def Value.allocated : Value F C → Value F C
  | .nil zero => .ptr zero.allocated
  | .ptr target => .ptr target.allocated
  | v => v

/-- **What `setFieldFromEnv` does**: it sets the parsed value, or allocates. -/
theorem setFieldFromEnv_eq (s : String) (v : Value F C) : setFieldFromEnv P s v =
    match v.parse P s with
    | some v' => (v', true)
    | none => (v.allocated, false) := by
  cases v with
  | nil zero =>
      have hZero := setFieldFromEnv_eq s zero
      unfold setFieldFromEnv Value.parse Value.allocated
      rw [hZero]
      cases zero.parse P s with
      | none => rfl
      | some v' => rfl
  | ptr target =>
      have hTarget := setFieldFromEnv_eq s target
      unfold setFieldFromEnv Value.parse Value.allocated
      rw [hTarget]
      cases target.parse P s with
      | none => rfl
      | some v' => rfl
  | scalar x =>
      unfold setFieldFromEnv Value.parse Value.allocated
      cases x.parse P s with
      | none => rfl
      | some x' => rfl
  | struct fields => rfl

theorem allocated_eq_iff (v : Value F C) : v.allocated = v ↔ ¬ v.HasNil := by
  cases v with
  | nil zero =>
      constructor
      · intro h
        cases h
      · intro h
        exact absurd trivial h
  | ptr target =>
      have hTarget := allocated_eq_iff target
      constructor
      · intro h
        have hEq : target.allocated = target := Value.ptr.inj h
        exact hTarget.mp hEq
      · intro h
        exact congrArg Value.ptr (hTarget.mpr h)
  | scalar x => exact ⟨fun _ h => h, fun _ => rfl⟩
  | struct fields => exact ⟨fun _ h => h, fun _ => rfl⟩

variable {path : FieldPath} {f : StructField} {v : Value F C} {known : List FieldPath}

theorem processLeaf_paths :
    (processLeaf P env path f v).2.map Prod.fst = settableLeaf P env path f v := by
  unfold processLeaf settableLeaf
  split
  · rfl
  · next s _ =>
      rw [setFieldFromEnv_eq]
      cases v.parse P s with
      | none => rfl
      | some v' => rfl

/-- **A field that is no struct** is as expected exactly if it meets the condition. -/
theorem processLeaf_iff (hSub : settableLeaf P env path f v ⊆ known)
    (hVar : path ++ [f.name] ∈ known → (f.var env).isSome) :
    LeafApplied P env known path f v (processLeaf P env path f v).1 ↔
      LeafCond P env known path f v := by
  unfold LeafApplied LeafCond processLeaf
  unfold settableLeaf at hSub
  cases hEnv : f.var env with
  | none =>
      have hNot : path ++ [f.name] ∉ known := by
        intro hMem
        have hSome := hVar hMem
        rw [hEnv] at hSome
        cases hSome
      rw [if_neg hNot]
      constructor
      · intro _ s hs
        cases hs
      · exact fun _ => rfl
  | some s =>
      rw [hEnv] at hSub
      dsimp only at hSub ⊢
      rw [setFieldFromEnv_eq]
      cases hParse : v.parse P s with
      | some v' =>
          rw [hParse] at hSub
          have hMem : path ++ [f.name] ∈ known := hSub (List.mem_singleton_self _)
          rw [if_pos hMem]
          constructor
          · intro _ s' hs' hNone
            cases hs'
            rw [hParse] at hNone
            cases hNone
          · exact fun _ => ⟨s, rfl, hParse⟩
      | none =>
          show (if path ++ [f.name] ∈ known then _ else v.allocated = v) ↔ _
          by_cases hMem : path ++ [f.name] ∈ known
          · rw [if_pos hMem]
            constructor
            · rintro ⟨s', hs', hSome⟩
              cases hs'
              rw [hParse] at hSome
              cases hSome
            · intro h
              exact absurd hMem (h s rfl hParse).2
          · rw [if_neg hMem, allocated_eq_iff]
            constructor
            · intro hNil s' hs' _
              exact ⟨hNil, hMem⟩
            · intro h
              exact (h s rfl hParse).1

/-! ## The tree of fields -/

theorem processOther_paths (path : FieldPath) (f : StructField) (v : Value F C) :
    (if f.anonymous then (v, []) else processLeaf P env path f v).2.map Prod.fst =
      if f.anonymous then [] else settableLeaf P env path f v := by
  split
  · rfl
  · exact processLeaf_paths

mutual

theorem processField_paths (path : FieldPath) (f : StructField) (v : Value F C) :
    (processField P env path f v).2.map Prod.fst = settableField P env path f v := by
  cases v with
  | struct fields => exact processStructFields_paths (f.within path) fields
  | scalar x => exact processOther_paths path f (.scalar x)
  | ptr target =>
      cases target with
      | struct fields => exact processStructFields_paths (f.within path) fields
      | scalar x => exact processOther_paths path f (.ptr (.scalar x))
      | ptr target => exact processOther_paths path f (.ptr (.ptr target))
      | nil zero => exact processOther_paths path f (.ptr (.nil zero))
  | nil zero =>
      cases zero with
      | struct fields =>
          unfold processField settableField
          split
          · exact processStructFields_paths (f.within path) fields
          · exact processLeaf_paths
      | scalar x => exact processOther_paths path f (.nil (.scalar x))
      | ptr target => exact processOther_paths path f (.nil (.ptr target))
      | nil zero => exact processOther_paths path f (.nil (.nil zero))

/-- **What is reported** are the fields that can be set. -/
theorem processStructFields_paths (path : FieldPath) (fields : Fields F C) :
    (processStructFields P env path fields).2.map Prod.fst =
    settable P env path fields := by
  cases fields with
  | nil => rfl
  | cons f v rest =>
      have hField := processField_paths path f v
      have hRest := processStructFields_paths path rest
      unfold processStructFields settable
      split
      · rw [List.map_append, hField, hRest]
      · rw [hRest]
        rfl

end

/-- Every path among them is one of a field whose variable is set. -/
def VarsSet (env : Environ) (known : List FieldPath) : Prop :=
  ∀ (path : FieldPath) (f : StructField), path ++ [f.name] ∈ known → (f.var env).isSome

/-- A field that is no struct, or an anonymous one, which the walk leaves alone. -/
theorem processOther_iff (hVars : VarsSet env known) (path : FieldPath)
    (f : StructField) (v : Value F C)
    (hSub : (if f.anonymous then [] else settableLeaf P env path f v) ⊆ known) :
    (if f.anonymous then
      (if f.anonymous then (v, []) else processLeaf P env path f v).1 = v
      else LeafApplied P env known path f v
        (if f.anonymous then (v, []) else processLeaf P env path f v).1) ↔
      if f.anonymous then True else LeafCond P env known path f v := by
  by_cases hAnon : f.anonymous = true
  · simp only [hAnon, if_true]
  · simp only [hAnon, if_false, Bool.false_eq_true] at hSub ⊢
    exact processLeaf_iff hSub (hVars path f)

/-- A struct, plain or behind a pointer, is as expected if its fields are. -/
theorem wrapped_iff {wrap : Fields F C → Value F C}
    (hWrap : ∀ a b, wrap a = wrap b → a = b)
    {got : Fields F C} {Good : Fields F C → Prop} {Q : Prop} (h : Good got ↔ Q) :
    (∃ fields, wrap got = wrap fields ∧ Good fields) ↔ Q := by
  rw [← h]
  constructor
  · rintro ⟨fields, hEq, hGood⟩
    rw [hWrap _ _ hEq]
    exact hGood
  · intro hGood
    exact ⟨_, rfl, hGood⟩

mutual

theorem processField_iff (hVars : VarsSet env known) (path : FieldPath)
    (f : StructField) (v : Value F C) (hSub : settableField P env path f v ⊆ known) :
    FieldApplied P env known path f v (processField P env path f v).1 ↔
      FieldCond P env known path f v := by
  cases v with
  | struct fields =>
      apply wrapped_iff fun a b h => Value.struct.inj h
      exact processStructFields_iff hVars (f.within path) fields hSub
  | scalar x => exact processOther_iff hVars path f (.scalar x) hSub
  | ptr target =>
      cases target with
      | struct fields =>
          apply wrapped_iff (fun a b h => Value.struct.inj (Value.ptr.inj h) :
            ∀ a b : Fields F C, Value.ptr (.struct a) = .ptr (.struct b) → a = b)
          exact processStructFields_iff hVars (f.within path) fields hSub
      | scalar x => exact processOther_iff hVars path f (.ptr (.scalar x)) hSub
      | ptr target => exact processOther_iff hVars path f (.ptr (.ptr target)) hSub
      | nil zero => exact processOther_iff hVars path f (.ptr (.nil zero)) hSub
  | nil zero =>
      cases zero with
      | struct fields =>
          unfold processField FieldApplied FieldCond
          unfold settableField at hSub
          by_cases hAnon : f.anonymous = true
          · simp only [hAnon, if_true] at hSub ⊢
            rw [← wrapped_iff (fun a b h => Value.struct.inj (Value.ptr.inj h) :
                ∀ a b : Fields F C, Value.ptr (.struct a) = .ptr (.struct b) → a = b)
              (processStructFields_iff hVars (f.within path) fields hSub)]
            constructor
            · rintro (⟨hEq, _⟩ | hPtr)
              · cases hEq
              · exact hPtr
            · exact Or.inr
          · simp only [hAnon, if_false, Bool.false_eq_true] at hSub ⊢
            exact processLeaf_iff hSub (hVars path f)
      | scalar x => exact processOther_iff hVars path f (.nil (.scalar x)) hSub
      | ptr target => exact processOther_iff hVars path f (.nil (.ptr target)) hSub
      | nil zero => exact processOther_iff hVars path f (.nil (.nil zero)) hSub

/-- **The fields of a struct** are as expected exactly if they meet the condition. -/
theorem processStructFields_iff (hVars : VarsSet env known) (path : FieldPath)
    (fields : Fields F C) (hSub : settable P env path fields ⊆ known) :
    Applied P env known path fields (processStructFields P env path fields).1 ↔
      Cond P env known path fields := by
  cases fields with
  | nil => exact ⟨fun _ => trivial, fun _ => rfl⟩
  | cons f v rest =>
      have hRest := processStructFields_iff hVars path rest
        fun p hp => hSub (List.mem_append_right _ hp)
      unfold processStructFields Applied Cond
      by_cases hSet : f.canSet = true
      · have hField := processField_iff hVars path f v fun p hp =>
          hSub (List.mem_append_left _ (by rwa [if_pos hSet]))
        simp only [hSet, if_true]
        rw [← hField, ← hRest]
        constructor
        · rintro ⟨v', rest', hEq, hv, hr⟩
          cases hEq
          exact ⟨hv, hr⟩
        · rintro ⟨hv, hr⟩
          exact ⟨_, _, rfl, hv, hr⟩
      · simp only [hSet, if_false, Bool.false_eq_true, true_and]
        rw [← hRest]
        constructor
        · rintro ⟨v', rest', hEq, _, hr⟩
          cases hEq
          exact hr
        · intro hr
          exact ⟨_, _, rfl, rfl, hr⟩

end

/-! ## The map -/

/-- The entry is one of a field, with the string of its variable. -/
def FromVar (env : Environ) (r : FieldPath × String) : Prop :=
  ∃ (path : FieldPath) (f : StructField), r.1 = path ++ [f.name] ∧ f.var env = some r.2

theorem processLeaf_fromVar (r : FieldPath × String)
    (h : r ∈ (processLeaf P env path f v).2) : FromVar env r := by
  unfold processLeaf at h
  split at h
  · cases h
  · next s hVar =>
      split at h
      · rw [List.mem_singleton.mp h]
        exact ⟨path, f, rfl, hVar⟩
      · cases h

mutual

theorem processField_fromVar (path : FieldPath) (f : StructField) (v : Value F C)
    (r : FieldPath × String) (h : r ∈ (processField P env path f v).2) :
    FromVar env r := by
  have hOther : ∀ v : Value F C,
      r ∈ (if f.anonymous then (v, []) else processLeaf P env path f v).2 →
      FromVar env r := by
    intro v hr
    split at hr
    · cases hr
    · exact processLeaf_fromVar r hr
  cases v with
  | struct fields => exact processStructFields_fromVar (f.within path) fields r h
  | scalar x => exact hOther (.scalar x) h
  | ptr target =>
      cases target with
      | struct fields => exact processStructFields_fromVar (f.within path) fields r h
      | scalar x => exact hOther (.ptr (.scalar x)) h
      | ptr target => exact hOther (.ptr (.ptr target)) h
      | nil zero => exact hOther (.ptr (.nil zero)) h
  | nil zero =>
      cases zero with
      | struct fields =>
          unfold processField at h
          split at h
          · exact processStructFields_fromVar (f.within path) fields r h
          · exact processLeaf_fromVar r h
      | scalar x => exact hOther (.nil (.scalar x)) h
      | ptr target => exact hOther (.nil (.ptr target)) h
      | nil zero => exact hOther (.nil (.nil zero)) h

theorem processStructFields_fromVar (path : FieldPath) (fields : Fields F C)
    (r : FieldPath × String) (h : r ∈ (processStructFields P env path fields).2) :
    FromVar env r := by
  cases fields with
  | nil => cases h
  | cons f v rest =>
      unfold processStructFields at h
      split at h
      · cases List.mem_append.mp h with
        | inl hField => exact processField_fromVar path f v r hField
        | inr hRest => exact processStructFields_fromVar path rest r hRest
      · exact processStructFields_fromVar path rest r h

end

theorem varsSet_settable (fields : Fields F C) :
    VarsSet env (settable P env [] fields) := by
  intro path f hMem
  rw [← processStructFields_paths] at hMem
  obtain ⟨r, hr, hPath⟩ := List.mem_map.mp hMem
  obtain ⟨path', f', hPath', hVar⟩ := processStructFields_fromVar [] fields r hr
  have hName : f.name = f'.name := by
    have hEq : path ++ [f.name] = path' ++ [f'.name] := hPath.symm.trans hPath'
    exact List.head_eq_of_cons_eq (List.append_inj' hEq rfl).2
  unfold StructField.var at hVar ⊢
  rw [hName, hVar]
  rfl

/-- The fields after `applyEnvOverrides` are as the map that it returns says: those it
reports have the values of their variables, and all others are as they were. -/
def ReportsTruly (P : Parsers F C) (lookupEnv : String → Option String) (pre : String)
    (fields : Fields F C) : Prop :=
  ∃ fields', (applyEnvOverrides P lookupEnv pre (.ptr (.struct fields))).1 =
      .ptr (.struct fields') ∧
    Applied P ⟨lookupEnv, normalized pre⟩
      ((applyEnvOverrides P lookupEnv pre (.ptr (.struct fields))).2.map Prod.fst) []
      fields fields'

/-- The fields that can be set, and the walk over them. -/
theorem reportsTruly_iff (P : Parsers F C) (lookupEnv : String → Option String)
    (pre : String) (fields : Fields F C) : ReportsTruly P lookupEnv pre fields ↔
      Applied P ⟨lookupEnv, normalized pre⟩
        (settable P ⟨lookupEnv, normalized pre⟩ [] fields) []
        fields (processStructFields P ⟨lookupEnv, normalized pre⟩ [] fields).1 := by
  have hPaths : (applyEnvOverrides P lookupEnv pre (.ptr (.struct fields))).2.map
      Prod.fst =
      settable P ⟨lookupEnv, normalized pre⟩ [] fields :=
    processStructFields_paths [] fields
  unfold ReportsTruly
  rw [hPaths]
  constructor
  · rintro ⟨fields', hEq, hApplied⟩
    have hSame : (processStructFields P ⟨lookupEnv, normalized pre⟩ [] fields).1 =
        fields' :=
      Value.struct.inj (Value.ptr.inj hEq)
    rw [hSame]
    exact hApplied
  · intro hApplied
    exact ⟨_, rfl, hApplied⟩

/-- **What `applyEnvOverrides` reports it has applied, and nothing else**, exactly if
every variable that does not parse is one of a field that is no nil pointer and shares
its path with none that is set, and every embedded nil pointer has a field that is set
behind it. -/
theorem applyEnvOverrides_truly_iff (P : Parsers F C)
    (lookupEnv : String → Option String)
    (pre : String) (fields : Fields F C) : ReportsTruly P lookupEnv pre fields ↔
      Cond P ⟨lookupEnv, normalized pre⟩
        (settable P ⟨lookupEnv, normalized pre⟩ [] fields) []
        fields := by
  rw [reportsTruly_iff]
  exact processStructFields_iff (varsSet_settable fields) [] fields (List.Subset.refl _)

/-- Parsers of nothing. -/
def noParsers : Parsers Unit Unit :=
  ⟨fun _ => none, fun _ _ => false, fun _ => none, fun _ => none⟩

/-- `MaxCallParticipants`, not set. -/
def maxCallParticipants : Fields Unit Unit :=
  .cons ⟨"MaxCallParticipants", true, false⟩ (.nil (.scalar (.int 64 0))) .nil

/-- The variable of `MaxCallParticipants` is set, and holds no number. -/
def manyParticipants (var : String) : Option String :=
  if var = "MM_CALLS_MAX_CALL_PARTICIPANTS" then some "many" else none

/-- The field points to 0 afterwards, and is not reported. -/
theorem nilPointer_overridden :
    ¬ ReportsTruly noParsers manyParticipants "MM_CALLS" maxCallParticipants := by
  rintro ⟨fields', hEq, hApplied⟩
  have hVar : StructField.var ⟨manyParticipants, normalized "MM_CALLS"⟩
      ⟨"MaxCallParticipants", true, false⟩ = some "many" := by decide
  have hAfter : applyEnvOverrides noParsers manyParticipants "MM_CALLS"
      (.ptr (.struct maxCallParticipants)) =
        (.ptr (.struct (.cons ⟨"MaxCallParticipants", true, false⟩
          (.ptr (.scalar (.int 64 0))) .nil)), []) := by
    have hParse : parseInt "many" = none := by decide
    simp [applyEnvOverrides, maxCallParticipants, processStructFields, processField,
      processLeaf, hVar, setFieldFromEnv, Scalar.parse, hParse]
  rw [hAfter] at hEq hApplied
  cases hEq
  obtain ⟨v', rest', hFields, hField, _⟩ := hApplied
  cases hFields
  cases hField

end CallsPlugin.Ports.Environment
