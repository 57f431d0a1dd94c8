import Bibliography.Proofs.CiteKey.Keys
import Mathlib.Data.List.DropRight

/-! # Batch after batch

A registry may be given any number of batches, and be reset in between. After any sequence of calls
it knows the first batch since its last reset and nothing else: batches that find keys assigned pass
untouched, and a reset leaves nothing behind. `after_calls` says so for all sequences.
-/

namespace Bibliography.CiteKey
set_option autoImplicit false

namespace Registry

/-- What a registry is asked to do. -/
inductive Call
  | assign (records : List Record)
  | reset

namespace Call

/-- The batch a call gives. -/
def batch? : Call → Option (List Record)
  | assign records => some records
  | reset => none

/-- The registry after a call, and the records the call returns. -/
def perform (g : Registry) : Call → Registry × List Record
  | assign records => g.assign records
  | reset => (g.reset, [])

end Call

/-- The registry after calls made one after the other. -/
def after (g : Registry) (calls : List Call) : Registry :=
  calls.foldl (fun g call => (call.perform g).1) g

/-- The batches given since the last reset, in order. -/
def sinceReset (calls : List Call) : List (List Record) :=
  (calls.rtakeWhile fun call => call.batch?.isSome).filterMap Call.batch?

/-- A new registry that was given the first of some batches, if there is one. -/
def ofFirst (f : Formatter) (batches : List (List Record)) : Registry :=
  batches.head?.elim (new f) fun records => ((new f).assign records).1

/-! ## One call -/

/-- A reset keeps the formatter and nothing else. -/
theorem reset_eq (g : Registry) : g.reset = new g.formatter := rfl

theorem assign_of_assigned {g : Registry} (h : g.assigned = true) (records : List Record) :
    g.assign records = (g, records) := by
  rw [assign, if_pos h]

theorem returned_of_not_assigned {g : Registry} (h : g.assigned = false) (records : List Record) :
    (g.assign records).2 = records.map withoutPin := by
  rw [assign, h]
  rfl

/-- A batch leaves the registry assigned, whatever is in it. -/
theorem assigned_assign (f : Formatter) (records : List Record) :
    ((new f).assign records).1.assigned = true := by
  have kept : Kept f fun g _ => g.formatter = f ∧ g.assigned = true :=
    { start := ⟨rfl, rfl⟩
      formatter := fun h => h.1
      warned := fun h _ => h
      record := fun h _ _ => h }
  exact (kept.batch records).2

theorem after_concat (g : Registry) (calls : List Call) (call : Call) :
    g.after (calls ++ [call]) = (call.perform (g.after calls)).1 := by
  rw [after, List.foldl_append]
  rfl

theorem sinceReset_assign (calls : List Call) (records : List Record) :
    sinceReset (calls ++ [.assign records]) = sinceReset calls ++ [records] := by
  rw [sinceReset, List.rtakeWhile_concat_pos _ _ _ rfl, List.filterMap_append]
  rfl

theorem sinceReset_reset (calls : List Call) : sinceReset (calls ++ [.reset]) = [] := by
  rw [sinceReset, List.rtakeWhile_concat_neg _ _ _ (by simp [Call.batch?])]
  rfl

/-! ## The registry of the first batch -/

theorem formatter_ofFirst (f : Formatter) (batches : List (List Record)) :
    (ofFirst f batches).formatter = f := by
  cases batches with
  | nil => rfl
  | cons records batches => exact formatter_assign f records

theorem assigned_ofFirst (f : Formatter) (batches : List (List Record)) :
    (ofFirst f batches).assigned = !batches.isEmpty := by
  cases batches with
  | nil => rfl
  | cons records batches => exact assigned_assign f records

/-- One batch more counts if it is the first. -/
theorem assign_ofFirst (f : Formatter) (batches : List (List Record)) (records : List Record) :
    ((ofFirst f batches).assign records).1 = ofFirst f (batches ++ [records]) := by
  cases batches with
  | nil => rfl
  | cons first batches =>
    have hassigned := assigned_ofFirst f (first :: batches)
    rw [assign_of_assigned hassigned]
    rfl

theorem after_eq_ofFirst (f : Formatter) (calls : List Call) :
    (new f).after calls = ofFirst f (sinceReset calls) := by
  induction calls using List.reverseRecOn with
  | nil => rfl
  | append_singleton calls call ih =>
    rw [after_concat, ih]
    cases call with
    | assign records => rw [sinceReset_assign, ← assign_ofFirst, Call.perform]
    | reset =>
      have hreset : (ofFirst f (sinceReset calls)).reset = new f := by
        rw [reset_eq, formatter_ofFirst]
      rw [sinceReset_reset, Call.perform, hreset]
      rfl

/-- After any calls a registry is a new one that was given the first batch since the last reset, or
a new one if there is none. It has keys assigned just if there is one, and then it returns every
batch as it is. -/
theorem after_calls (f : Formatter) (calls : List Call) :
    (new f).after calls =
        (sinceReset calls).head?.elim (new f) (fun records => ((new f).assign records).1) ∧
      ((new f).after calls).assigned = !(sinceReset calls).isEmpty ∧
      ∀ records, ((Call.assign records).perform ((new f).after calls)).2 =
        if ((new f).after calls).assigned then records else records.map withoutPin := by
  refine ⟨after_eq_ofFirst f calls, ?_, ?_⟩
  · rw [after_eq_ofFirst, assigned_ofFirst]
  · intro records
    rw [Call.perform]
    cases h : ((new f).after calls).assigned with
    | true => rw [assign_of_assigned h, if_pos rfl]
    | false => rw [returned_of_not_assigned h, if_neg Bool.false_ne_true]

end Registry
end Bibliography.CiteKey
