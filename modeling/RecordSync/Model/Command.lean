import RecordSync.Model.Virtual

/-!
# Commands on models

The writes to a model as values, so that a history of a model is a list.
-/

set_option autoImplicit false

namespace RecordSync

inductive ModelCommand where
  | set (name : String) (value : Json)
  | setAt (path : Path) (value : Json)
  | setMany (values : Entity)
  | push (path : Path) (value : Json)
  | splice (path : Path) (index count : Nat) (items : List Json)
  | remove (path : Path)
  | submit
  | reset
  | resetProperty (name : String)
  | rebase (values : Entity)

namespace Written

variable {α : Type}

def verdict (w : Written Bool) : Written (Option Bool) := { w with result := some w.result }

def silent (w : Written α) : Written (Option Bool) := { w with result := none }

end Written

def Model.perform (m : Model) (fields : VirtualFields) : ModelCommand → Written (Option Bool)
  | .set name value => (m.set fields name value).verdict
  | .setAt path value => (m.setAt path value).verdict
  | .setMany values => (m.setFields fields values).verdict
  | .push path value => (m.push path value).verdict
  | .splice path index count items => (m.splice path index count items).verdict
  | .remove path => (m.remove path).verdict
  | .submit => ⟨none, m.submit, []⟩
  | .reset => m.reset.silent
  | .resetProperty name => (m.resetProperty name).silent
  | .rebase values => (m.rebase values).silent

end RecordSync
