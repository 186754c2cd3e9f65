import DeviceFleet.Fleet.Request

/-!
A walk over a tenant's records, one page after another. The cursor moves when a page arrives and
stays when a call fails.
-/

namespace DeviceFleet

inductive Cursor
  | start
  | after (token : PageToken)
  | finished
  deriving DecidableEq, Repr

structure Pager where
  tenant : String
  pageSize : Nat
  cursor : Cursor
  deriving DecidableEq, Repr

namespace Pager

def new (tenant : String) (pageSize : Nat) : Pager := ⟨tenant, pageSize, .start⟩

def resume (t : PageToken) (p : Pager) : Pager := { p with cursor := .after t }

def restart (p : Pager) : Pager := { p with cursor := .start }

/-- The token of a page still to come. -/
def token (p : Pager) : Option PageToken :=
  match p.cursor with
  | .after t => some t
  | _ => none

def advance (p : Pager) (page : Page) : Pager :=
  { p with cursor := match page.next with
    | some t => .after t
    | none => .finished }

/-- The records of the next page, or none at the end of the walk. -/
abbrev Step := Except StoreError (Option (List Record))

def receive (p : Pager) : Except StoreError Page → Step × Pager
  | .error e => (.error e, p)
  | .ok page => (.ok (if page.records.isEmpty then none else some page.records), p.advance page)

def nextPage (p : Pager) : Client (Step × Pager) :=
  match p.cursor with
  | .finished => .done (.ok none, p)
  | .start => .call (.list p.tenant none p.pageSize) fun r => .done (p.receive r)
  | .after t => .call (.list p.tenant (some t) p.pageSize) fun r => .done (p.receive r)

/-- What a walk to the end gave: the records of all its pages, or the error that stopped it.
Nothing stands for a walk that has not ended within the pages allowed. -/
abbrev Collection := Option (Except StoreError (List Record))

def collectFrom (got : List Record) : Nat → Pager → Client (Collection × Pager)
  | 0, p => .done (none, p)
  | pages + 1, p => p.nextPage.bind fun
    | (.error e, p) => .done (some (.error e), p)
    | (.ok none, p) => .done (some (.ok got), p)
    | (.ok (some records), p) => collectFrom (got ++ records) pages p

def collectAll (pages : Nat) (p : Pager) : Client (Collection × Pager) := collectFrom [] pages p

end Pager

end DeviceFleet
