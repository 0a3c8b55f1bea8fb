import Cadastre.Proofs.Plan.Only
import Cadastre.World.Storage

/-!
# Plans that only look

A plan that only looks at a storage has one outcome there, whatever the time is and whatever was
written before. It also has that outcome in every other storage that answers its requests alike.
-/

namespace Cadastre

open Plan

namespace Storage

variable {α β : Type}

/-- Two storages give the same answer to a request. -/
def Agree (a b : Storage) : Request → Prop
  | .probe path => a.probe path = b.probe path
  | .isFile path => a.isFile path = b.isFile path
  | .read path => a.read path = b.read path
  | .readStart path => a.read path = b.read path
  | .list path => a.list path = b.list path
  | .write path text => a.write path text = b.write path text
  | _ => True

theorem agree_refl (storage : Storage) (q : Request) : storage.Agree storage q := by
  cases q <;> first | exact rfl | exact trivial

/-- A request that only looks has an answer, and changes nothing. -/
theorem exists_world_of_looks (storage : Storage) {q : Request} (hq : q.Looks) :
    ∃ r, ∀ other : Storage, other.Agree storage q → ∀ time w,
      other.world time q w = (.ok r, w) := by
  cases q with
  | probe path => exact ⟨storage.probe path, fun _ h _ _ => by rw [world, show _ = _ from h]⟩
  | read path => exact ⟨storage.read path, fun _ h _ _ => by rw [world, show _ = _ from h]⟩
  | list path => exact ⟨storage.list path, fun _ h _ _ => by rw [world, show _ = _ from h]⟩
  | log entry => exact ⟨(), fun _ _ _ _ => rfl⟩
  | _ => exact hq.elim

/-- A request that a scan makes has an answer, and changes nothing. -/
theorem exists_world_of_scans (storage : Storage) (time : Instant) {q : Request} (hq : q.Scans) :
    ∃ r, ∀ w, storage.world time q w = (.ok r, w) := by
  rcases hq with hlooks | rfl
  · obtain ⟨r, hr⟩ := storage.exists_world_of_looks hlooks
    exact ⟨r, hr storage (storage.agree_refl q) time⟩
  · exact ⟨time, fun _ => rfl⟩

/-- A plan that only looks has one outcome in a storage and in all that agree with it on its
requests. -/
theorem exists_run_of_looks (storage : Storage) {p : Plan α} (hp : p.Only Request.Looks) :
    ∃ a requests, ∀ other : Storage, (∀ q ∈ requests, other.Agree storage q) → ∀ time w,
      run (other.world time) p w = ⟨.ok a, w, requests⟩ := by
  induction p with
  | done a => exact ⟨a, [], fun _ _ _ _ => rfl⟩
  | ask q k ih =>
    obtain ⟨r, hr⟩ := exists_world_of_looks storage hp.1
    obtain ⟨a, requests, hrest⟩ := ih r (hp.2 r)
    refine ⟨a, q :: requests, fun other hagree time w => ?_⟩
    obtain ⟨hq, hagree⟩ := List.forall_mem_cons.1 hagree
    rw [run, hr other hq time w]
    simp only [hrest other hagree time w]

/-! ## Single requests -/

theorem run_read (storage : Storage) (time : Instant) (path : String) (w : Written) :
    run (storage.world time) (Plan.read path) w = ⟨.ok (storage.read path), w, [.read path]⟩ :=
  rfl

theorem run_write_of_ok {storage : Storage} {path text : String}
    (h : storage.write path text = .ok ()) (time : Instant) (w : Written) :
    run (storage.world time) (Plan.write path text) w =
      ⟨.ok (.ok ()), w ++ [(path, text)], [.write path text]⟩ :=
  run_request_of_ok (by rw [world, h])

theorem run_write_of_error {storage : Storage} {path text message : String}
    (h : storage.write path text = .error message) (time : Instant) (w : Written) :
    run (storage.world time) (Plan.write path text) w =
      ⟨.ok (.error message), w, [.write path text]⟩ :=
  run_request_of_ok (by rw [world, h])

end Storage

end Cadastre
