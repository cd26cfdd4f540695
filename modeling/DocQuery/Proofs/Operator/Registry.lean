import DocQuery.Operator.Registry
import Mathlib.Data.Set.Card

/-!
What a registry holds after a run of changes. Each change acts under one name: it
leaves an operator there, or nothing, and all other names stand for what they stood
for. So after a run a name stands for what the last change under it has left, and for
what it stood for at first if there was no such change. What it stands for has that
name itself, and the name is signed, whatever text was given.
-/

namespace DocQuery

/-- A text that begins with a dollar sign is a name as it stands; any other gets the sign in
front. -/
def signedName (text : String) : String :=
  if text.toList.head? = some '$' then text else String.ofList ('$' :: text.toList)

theorem isOperatorName_iff {name : String} :
    isOperatorName name = true ↔ name.toList.head? = some '$' := by
  rw [isOperatorName, operatorSign, beq_iff_eq]

theorem isOperatorName_eq_false_iff {name : String} :
    isOperatorName name = false ↔ name.toList.head? ≠ some '$' := by
  rw [Bool.eq_false_iff, Ne, isOperatorName_iff]

theorem canonicalName_eq_signedName (name : String) : canonicalName name = signedName name := by
  rw [canonicalName, signedName]
  by_cases hsigned : name.toList.head? = some '$'
  · rw [if_pos (isOperatorName_iff.mpr hsigned), if_pos hsigned]
  · rw [if_neg (mt isOperatorName_iff.mp hsigned), if_neg hsigned, String.ofList_cons,
      String.ofList_toList]
    rfl

theorem Builtin.isOperatorName_name (b : Builtin) : isOperatorName b.name = true := by
  cases b <;> decide

namespace Registry

theorem name_of_lookup {r : Registry} {name : String} {op : Operator}
    (h : r.lookup name = some op) : op.name = name := by
  have hname := List.find?_some h
  exact beq_iff_eq.mp hname

theorem mem_of_lookup {r : Registry} {name : String} {op : Operator}
    (h : r.lookup name = some op) : op ∈ r.operators :=
  List.mem_of_find?_eq_some h

theorem signed_of_lookup {r : Registry} {name : String} {op : Operator}
    (h : r.lookup name = some op) : isOperatorName name = true := by
  have hsigned := r.signed op (mem_of_lookup h)
  rwa [name_of_lookup h] at hsigned

/-- The name of a built-in operator stands for this operator. -/
def HasBuiltIn (r : Registry) (b : Builtin) : Prop := r.lookup b.name = some (.builtin b)

theorem standard_hasBuiltIn (b : Builtin) : standard.HasBuiltIn b := by
  cases b <;> rfl

/-- At first there are the built-in operators, each under its own name. -/
theorem lookup_standard_iff {name : String} {op : Operator} :
    standard.lookup name = some op ↔ ∃ b, op = .builtin b ∧ b.name = name := by
  constructor
  · intro h
    obtain ⟨b, -, rfl⟩ := List.mem_map.mp (mem_of_lookup h)
    exact ⟨b, rfl, name_of_lookup h⟩
  · rintro ⟨b, rfl, rfl⟩
    exact standard_hasBuiltIn b

/-- What is found after the operators of one name have been taken out. -/
private theorem find?_without (operators : List Operator) (name other : String) :
    ((operators.filter fun op => op.name != name).find? fun op => op.name == other) =
      if other = name then none else operators.find? fun op => op.name == other := by
  induction operators with
  | nil => simp
  | cons op rest ih =>
    by_cases hname : op.name = name
    · have hkeep : (op.name != name) = false := by simp [hname]
      rw [List.filter_cons, hkeep, if_neg Bool.false_ne_true, ih, List.find?_cons]
      by_cases hother : other = name
      · rw [if_pos hother, if_pos hother]
      · have hne : (op.name == other) = false := by simp [hname, Ne.symm hother]
        rw [if_neg hother, if_neg hother, hne]
    · have hkeep : (op.name != name) = true := by simp [hname]
      rw [List.filter_cons, hkeep, if_pos rfl, List.find?_cons, ih, List.find?_cons]
      by_cases hother : other = name
      · have hne : (op.name == other) = false := by simp [hother, hname]
        rw [if_pos hother, if_pos hother, hne]
      · rw [if_neg hother, if_neg hother]

theorem lookup_insert (r : Registry) (op : Operator) (h : isOperatorName op.name = true)
    (name : String) :
    (r.insert op h).lookup name = if name = op.name then some op else r.lookup name := by
  change (op :: r.operators.filter fun o => o.name != op.name).find? (fun o => o.name == name) = _
  rw [List.find?_cons, find?_without]
  by_cases hname : name = op.name
  · simp [hname]
  · have hne : (op.name == name) = false := by simp [Ne.symm hname]
    rw [hne, if_neg hname, if_neg hname]
    rfl

theorem lookup_unregister (r : Registry) (name other : String) :
    (r.unregister name).2.lookup other =
      if other = signedName name then none else r.lookup other := by
  rw [← canonicalName_eq_signedName]
  exact find?_without r.operators (canonicalName name) other

theorem isSome_lookup_iff {r : Registry} {name : String} :
    (r.lookup name).isSome = true ↔ name ∈ r.operators.map Operator.name := by
  rw [lookup, List.find?_isSome, List.mem_map]
  simp only [beq_iff_eq]

/-- Every operator has a name of its own. -/
theorem size_eq_ncard (r : Registry) : r.size = {name | (r.lookup name).isSome = true}.ncard := by
  have hnames : {name | (r.lookup name).isSome = true} =
      ((r.operators.map Operator.name).toFinset : Set String) := by
    ext name
    rw [Set.mem_ofPred_eq, isSome_lookup_iff, List.coe_toFinset, Set.mem_ofPred_eq]
  rw [hnames, Set.ncard_coe_finset, List.toFinset_card_of_nodup r.distinct, List.length_map]
  rfl

inductive Change where
  | register (op : CustomOperator)
  | registerBuiltin (b : Builtin)
  | unregister (name : String)

namespace Change

def name : Change → String
  | register op => signedName op.name
  | registerBuiltin b => b.name
  | unregister name => signedName name

/-- What a change leaves behind under its name. -/
def left : Change → Option Operator
  | register op => some (.custom { op with name := signedName op.name })
  | registerBuiltin b => some (.builtin b)
  | unregister _ => none

def apply (r : Registry) : Change → Registry
  | register op => r.register op
  | registerBuiltin b => r.registerBuiltin b
  | unregister name => (r.unregister name).2

/-- A change decides what its own name stands for, and nothing else. -/
theorem lookup_apply (r : Registry) (c : Change) (name : String) :
    (c.apply r).lookup name = if name = c.name then c.left else r.lookup name := by
  cases c with
  | register op =>
    rw [Change.name, left, ← canonicalName_eq_signedName]
    exact r.lookup_insert (.custom { op with name := canonicalName op.name })
      (isOperatorName_canonicalName op.name) name
  | registerBuiltin b => exact r.lookup_insert (.builtin b) b.isOperatorName_name name
  | unregister other => exact r.lookup_unregister other name

end Change

def after (r : Registry) (changes : List Change) : Registry := changes.foldl Change.apply r

/-- The last change of a run that acts under a name. -/
def lastChange? (changes : List Change) (name : String) : Option Change :=
  changes.reverse.find? fun c => c.name == name

theorem after_concat (r : Registry) (changes : List Change) (c : Change) :
    r.after (changes ++ [c]) = c.apply (r.after changes) := by
  rw [after, List.foldl_append, List.foldl_cons, List.foldl_nil]
  rfl

theorem lastChange?_concat (changes : List Change) (c : Change) (name : String) :
    lastChange? (changes ++ [c]) name =
      if name = c.name then some c else lastChange? changes name := by
  rw [lastChange?, List.reverse_append, List.reverse_singleton, List.singleton_append,
    List.find?_cons]
  by_cases hname : name = c.name
  · simp [hname]
  · have hne : (c.name == name) = false := by simp [Ne.symm hname]
    rw [hne, if_neg hname]
    rfl

/-- A name stands for what the last change under it has left. -/
theorem lookup_after (r : Registry) (changes : List Change) (name : String) :
    (r.after changes).lookup name =
      match lastChange? changes name with
      | some c => c.left
      | none => r.lookup name := by
  induction changes using List.reverseRecOn with
  | nil => rfl
  | append_singleton changes c ih =>
    rw [after_concat, Change.lookup_apply, lastChange?_concat]
    by_cases hname : name = c.name
    · rw [if_pos hname, if_pos hname]
    · rw [if_neg hname, if_neg hname]
      exact ih

end Registry
end DocQuery
