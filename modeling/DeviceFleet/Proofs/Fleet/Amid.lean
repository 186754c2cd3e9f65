import DeviceFleet.Proofs.Fleet.Calls
import DeviceFleet.Proofs.Fleet.Interleaving

/-! Clients whose calls come between the steps of others. -/

namespace DeviceFleet

/-- A call that a client makes amid others: what these have changed since its call before, the store
that it finds, and the answer to it. -/
structure Visit where
  meanwhile : List Change
  store : Store
  reply : Reply

namespace Client

variable {α : Type}

/-- Runs a client amid a crowd, which takes some turns before each call of the client. There are
finitely many such pauses, and no turns are taken once they are over. -/
def runAmid (clock : Nat → Timestamp) :
    Nat → List (List Turn) → Client α → Crowd → List Visit × α × Crowd
  | _, _, .done a, c => ([], a, c)
  | n, pauses, .call q next, c =>
    let met := c.run (pauses.headD [])
    let (r, store) := met.shared.store.perform (clock n) q
    let (visits, a, last) := (next r).runAmid clock (n + 1) pauses.tail
      { met with shared := { met.shared with store } }
    (⟨c.history (pauses.headD []), met.shared.store, ⟨q, r⟩⟩ :: visits, a, last)

lemma runAmid_list (clock : Nat → Timestamp) (n : Nat) (pauses : List (List Turn)) (c : Crowd)
    (tenant : String) (token : Option PageToken) (size : Nat)
    (next : Except StoreError Page → Client α) :
    let met := c.run (pauses.headD [])
    let page := met.shared.store.list tenant token size
    let onward := (next page).runAmid clock (n + 1) pauses.tail met
    (Client.call (.list tenant token size) next).runAmid clock n pauses c =
      (⟨c.history (pauses.headD []), met.shared.store, ⟨.list tenant token size, page⟩⟩ :: onward.1,
        onward.2) := rfl

/-- Where the crowd takes no turns, a client runs as it does alone. -/
theorem runAmid_alone (clock : Nat → Timestamp) (n : Nat) (p : Client α) (c : Crowd) :
    (p.runAmid clock n [] c).2 =
      ((p.runOn clock n c.shared.store).1,
        { c with shared := { c.shared with store := (p.runOn clock n c.shared.store).2 } }) := by
  induction p generalizing n c with
  | done a => rfl
  | call q next ih => exact ih _ (n + 1) _

end Client

end DeviceFleet
