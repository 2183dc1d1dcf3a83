import Mathlib.Data.List.Basic

/-! # Send windows

A sender keeps what it has written until it is acknowledged. An acknowledgement names an id, and
covers every item up to it. -/

namespace SendWindow

/-- What happens to a window. -/
inductive Entry (ι α : Type*)
  | write (id : ι) (item : α)
  | acknowledge (id : ι)

variable {ι α : Type*}

/-- The items written, in order. -/
def written (log : List (Entry ι α)) : List (ι × α) :=
  log.filterMap fun
    | .write id item => some (id, item)
    | .acknowledge _ => none

/-- The ids that have been acknowledged. -/
def acknowledged (log : List (Entry ι α)) : List ι :=
  log.filterMap fun
    | .write _ _ => none
    | .acknowledge id => some id

theorem written_append_write (log : List (Entry ι α)) (id : ι) (item : α) :
    written (log ++ [.write id item]) = written log ++ [(id, item)] :=
  List.filterMap_append

theorem written_append_acknowledge (log : List (Entry ι α)) (id : ι) :
    written (log ++ [.acknowledge id]) = written log :=
  List.filterMap_append.trans (List.append_nil _)

theorem acknowledged_append_write (log : List (Entry ι α)) (id : ι) (item : α) :
    acknowledged (log ++ [.write id item]) = acknowledged log :=
  List.filterMap_append.trans (List.append_nil _)

theorem acknowledged_append_acknowledge (log : List (Entry ι α)) (id : ι) :
    acknowledged (log ++ [.acknowledge id]) = acknowledged log ++ [id] :=
  List.filterMap_append

variable [LT ι] [DecidableLT ι]

/-- The items written whose id is greater than every acknowledged one, and so than the largest. -/
def outstanding (log : List (Entry ι α)) : List (ι × α) :=
  (written log).filter fun s => (acknowledged log).all fun id => id < s.1

@[simp] theorem outstanding_nil : outstanding ([] : List (Entry ι α)) = [] := rfl

/-- An acknowledgement takes the items up to its id out of the window. -/
theorem outstanding_append_acknowledge (log : List (Entry ι α)) (id : ι) :
    outstanding (log ++ [.acknowledge id]) = (outstanding log).filter fun s => id < s.1 := by
  simp [outstanding, written_append_acknowledge, acknowledged_append_acknowledge, Bool.and_comm]

/-- A new item is outstanding unless its id was acknowledged before it was written. -/
theorem outstanding_append_write (log : List (Entry ι α)) (id : ι) (item : α) :
    outstanding (log ++ [.write id item]) =
      outstanding log ++ if ∀ ack ∈ acknowledged log, ack < id then [(id, item)] else [] := by
  simp [outstanding, written_append_write, acknowledged_append_write, List.filter_cons]

end SendWindow
