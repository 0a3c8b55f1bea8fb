import Cadastre.Snapshot.Basic

/-!
# Documented order

Routes are listed by path, then by the name of their method, their file and their handler; tables
by name and modules by slug. Strings are compared character by character by their numbers. Sorting
keeps the order of entries that compare equal.
-/

namespace Cadastre

/-- Entries in ascending order of a key, those with equal keys in their given order. -/
def sortByKey {α : Type} (key : α → String) (entries : List α) : List α :=
  entries.mergeSort fun a b => decide (key a ≤ key b)

/-- Whether a list of keys may stand before another one: the first key in which they differ
decides. -/
def keysLe : List String → List String → Bool
  | [], _ => true
  | _ :: _, [] => false
  | x :: xs, y :: ys => if x < y then true else if x = y then keysLe xs ys else false

namespace Route

/-- What routes are ordered by, the most significant key first. -/
def sortKeys (r : Route) : List String := [r.path, r.method.name, r.sourceFile, r.handler]

/-- Whether one route may stand before another. -/
def le (a b : Route) : Bool := keysLe a.sortKeys b.sortKeys

/-- Routes in documented order, those that agree in all keys in their given order. -/
def sort (routes : List Route) : List Route := routes.mergeSort le

end Route

/-- Tables in documented order. -/
def Table.sort (tables : List Table) : List Table := sortByKey Table.name tables

/-- Modules in documented order. -/
def AdminModule.sort (modules : List AdminModule) : List AdminModule :=
  sortByKey AdminModule.slug modules

end Cadastre
