import Sgr.Concurrency.Refinement
import Sgr.Core.Encryption
import Sgr.Core.Types

/-!
# The exchange keys of the tenants

The table `api_keys`: `store_api_key` of `sgr/saas/tenant.py` writes it, the endpoint
`DELETE /api-keys/{key_id}` of `sgr/saas/routers.py` deactivates a row, and a worker reads its keys
with `load_tenant_credentials` of `sgr/core/tenant_credentials.py`. An entry that is stored again
keeps its row with its id, whereas the id that is answered is always a new one.
-/

open Concurrency Encoding

namespace Sgr

/-- What a row is unique for. -/
abbrev ApiKeySlot := UUID × String × TradingMode

/-- A row of `api_keys`. -/
structure ApiKeyRow where
  id : UUID
  userId : UUID
  exchange : String
  tradingMode : TradingMode
  label : String
  encryptedApiKey : List Char
  encryptedSecret : List Char
  isActive : Bool := true

namespace ApiKeyRow

def slot (r : ApiKeyRow) : ApiKeySlot := (r.userId, r.exchange, r.tradingMode)

/-- `on_conflict_do_update`: what is written over the row of the slot. -/
def overwrite (new r : ApiKeyRow) : ApiKeyRow :=
  if r.slot = new.slot then
    { r with
      encryptedApiKey := new.encryptedApiKey
      encryptedSecret := new.encryptedSecret
      label := new.label
      isActive := true }
  else r

/-- The row after the update of `delete_api_key`. -/
def deactivate (keyId userId : UUID) (r : ApiKeyRow) : ApiKeyRow :=
  if r.id = keyId ∧ r.userId = userId then { r with isActive := false } else r

@[simp] theorem slot_overwrite (new r : ApiKeyRow) : (overwrite new r).slot = r.slot := by
  unfold overwrite
  split <;> rfl

@[simp] theorem id_overwrite (new r : ApiKeyRow) : (overwrite new r).id = r.id := by
  unfold overwrite
  split <;> rfl

@[simp] theorem slot_deactivate (keyId userId : UUID) (r : ApiKeyRow) :
    (r.deactivate keyId userId).slot = r.slot := by
  unfold deactivate
  split <;> rfl

@[simp] theorem id_deactivate (keyId userId : UUID) (r : ApiKeyRow) :
    (r.deactivate keyId userId).id = r.id := by
  unfold deactivate
  split <;> rfl

end ApiKeyRow

/-- The table, with its constraints. -/
structure ApiKeyTable where
  rows : List ApiKeyRow
  nodup_slots : (rows.map ApiKeyRow.slot).Nodup
  nodup_ids : (rows.map ApiKeyRow.id).Nodup

namespace ApiKeyTable

variable (t : ApiKeyTable)

def slots : List ApiKeySlot := t.rows.map ApiKeyRow.slot

def ids : List UUID := t.rows.map ApiKeyRow.id

/-- A table before anything is stored. -/
def empty : ApiKeyTable := ⟨[], List.nodup_nil, List.nodup_nil⟩

/-- An update that keeps the slots and the ids. -/
def update (f : ApiKeyRow → ApiKeyRow) (hslot : ∀ r, (f r).slot = r.slot)
    (hid : ∀ r, (f r).id = r.id) : ApiKeyTable where
  rows := t.rows.map f
  nodup_slots := by
    rw [List.map_map, show ApiKeyRow.slot ∘ f = ApiKeyRow.slot from funext hslot]
    exact t.nodup_slots
  nodup_ids := by
    rw [List.map_map, show ApiKeyRow.id ∘ f = ApiKeyRow.id from funext hid]
    exact t.nodup_ids

/-- A row that violates no constraint is added. -/
def insert (new : ApiKeyRow) (hslot : new.slot ∉ t.slots) (hid : new.id ∉ t.ids) :
    ApiKeyTable where
  rows := new :: t.rows
  nodup_slots := List.nodup_cons.2 ⟨hslot, t.nodup_slots⟩
  nodup_ids := List.nodup_cons.2 ⟨hid, t.nodup_ids⟩

/-- The statement of `store_api_key`; `none` is a violation of the primary key. -/
def upsert (new : ApiKeyRow) : Option ApiKeyTable :=
  if hslot : new.slot ∈ t.slots then
    some (t.update new.overwrite (ApiKeyRow.slot_overwrite new) (ApiKeyRow.id_overwrite new))
  else if hid : new.id ∈ t.ids then none
  else some (t.insert new hslot hid)

/-- The statement of `delete_api_key`. -/
def deactivate (keyId userId : UUID) : ApiKeyTable :=
  t.update (·.deactivate keyId userId) (ApiKeyRow.slot_deactivate keyId userId)
    (ApiKeyRow.id_deactivate keyId userId)

/-- The rows of a user. -/
def ofUser (userId : UUID) : ApiKeyTable where
  rows := t.rows.filter fun r => r.userId = userId
  nodup_slots := (List.filter_sublist.map _).nodup t.nodup_slots
  nodup_ids := (List.filter_sublist.map _).nodup t.nodup_ids

/-- The rows that `load_tenant_credentials` selects. -/
def active (slot : ApiKeySlot) : List ApiKeyRow :=
  t.rows.filter fun r => r.slot = slot ∧ r.isActive = true

@[simp] theorem slots_update (f : ApiKeyRow → ApiKeyRow) (hslot : ∀ r, (f r).slot = r.slot)
    (hid : ∀ r, (f r).id = r.id) : (t.update f hslot hid).slots = t.slots := by
  rw [slots, update, List.map_map, show ApiKeyRow.slot ∘ f = ApiKeyRow.slot from funext hslot,
    slots]

@[simp] theorem ids_update (f : ApiKeyRow → ApiKeyRow) (hslot : ∀ r, (f r).slot = r.slot)
    (hid : ∀ r, (f r).id = r.id) : (t.update f hslot hid).ids = t.ids := by
  rw [ids, update, List.map_map, show ApiKeyRow.id ∘ f = ApiKeyRow.id from funext hid, ids]

@[simp] theorem rows_update (f : ApiKeyRow → ApiKeyRow) (hslot : ∀ r, (f r).slot = r.slot)
    (hid : ∀ r, (f r).id = r.id) : (t.update f hslot hid).rows = t.rows.map f := rfl

@[simp] theorem rows_insert (new : ApiKeyRow) (hslot : new.slot ∉ t.slots) (hid : new.id ∉ t.ids) :
    (t.insert new hslot hid).rows = new :: t.rows := rfl

@[simp] theorem rows_ofUser (userId : UUID) :
    (t.ofUser userId).rows = t.rows.filter fun r => r.userId = userId := rfl

theorem ext {t t' : ApiKeyTable} (h : t.rows = t'.rows) : t = t' := by
  cases t
  cases t'
  cases h
  rfl

end ApiKeyTable

/-- Of entries with different keys, one is found by its key alone. -/
theorem filter_key_eq {α β : Type*} [DecidableEq β] {f : α → β} {l : List α}
    (hnodup : (l.map f).Nodup) {a : α} (ha : a ∈ l) : l.filter (fun b => f b = f a) = [a] := by
  induction l with
  | nil => cases ha
  | cons b l ih =>
      rw [List.map_cons, List.nodup_cons] at hnodup
      rcases List.mem_cons.1 ha with rfl | ha
      · have hrest : l.filter (fun b => f b = f a) = [] :=
          List.filter_eq_nil_iff.2 fun c hc heq =>
            hnodup.1 (of_decide_eq_true heq ▸ List.mem_map_of_mem hc)
        rw [List.filter_cons_of_pos (by simp), hrest]
      · have hne : f b ≠ f a := fun heq => hnodup.1 (heq ▸ List.mem_map_of_mem ha)
        rw [List.filter_cons_of_neg (by simpa using hne), ih hnodup.2 ha]

namespace ApiKeyTable

variable {t : ApiKeyTable}

/-- At most one row is selected. -/
theorem active_of_mem {r : ApiKeyRow} (h : r ∈ t.rows) :
    t.active r.slot = [r].filter ApiKeyRow.isActive := by
  rw [← filter_key_eq t.nodup_slots h, List.filter_filter, active]
  refine List.filter_congr fun b _ => ?_
  rw [Bool.and_comm, Bool.decide_and]
  cases b.isActive <;> rfl

theorem active_of_notMem {slot : ApiKeySlot} (h : slot ∉ t.slots) : t.active slot = [] :=
  List.filter_eq_nil_iff.2 fun _ hr hslot =>
    h ((of_decide_eq_true hslot).1 ▸ List.mem_map_of_mem hr)

end ApiKeyTable

/-- A call of `store_api_key`, with the id and the initialization vectors that it draws. -/
structure StoreCall where
  userId : String
  exchange : String
  tradingMode : TradingMode
  apiKey : String
  secret : String
  label : String := "default"
  keyId : UUID
  keyIv : InitVector
  secretIv : InitVector

/-- Why `load_tenant_credentials` raises. -/
inductive CredentialError
  /-- The id of the tenant is not that of a user. -/
  | notUuid
  | notConfigured
  /-- `MultipleResultsFound`. -/
  | ambiguous
  /-- What is stored cannot be decrypted. -/
  | sealed
  deriving DecidableEq, Repr

/-- What the store rests on: `UUID(text)`, by which ids of users are compared, the package of the
cipher, and the cipher of the configuration. -/
structure ApiKeyStore where
  uuid : String → Option UUID
  aead : Aead
  cipher : Cipher

namespace ApiKeyStore

variable (db : ApiKeyStore)

/-- `encrypt` with the id of the user as associated data. -/
def sealFor (userId : String) (iv : InitVector) (text : String) : List Char :=
  db.cipher.encrypt db.aead iv text (utf8 userId)

/-- The row of a call. -/
def row (call : StoreCall) (userId : UUID) : ApiKeyRow where
  id := call.keyId
  userId := userId
  exchange := call.exchange
  tradingMode := call.tradingMode
  label := call.label
  encryptedApiKey := db.sealFor call.userId call.keyIv call.apiKey
  encryptedSecret := db.sealFor call.userId call.secretIv call.secret

/-- `store_api_key`, with the id that it returns; an exception leaves the table as it is. -/
def store (call : StoreCall) (t : ApiKeyTable) : ApiKeyTable × Option UUID :=
  match (db.uuid call.userId).bind fun userId => t.upsert (db.row call userId) with
  | none => (t, none)
  | some t' => (t', some call.keyId)

/-- `delete_api_key` of a user, with its success. -/
def delete (keyId : UUID) (userId : String) (t : ApiKeyTable) : ApiKeyTable × Bool :=
  match db.uuid userId with
  | none => (t, false)
  | some userId =>
      (t.deactivate keyId userId, t.rows.any fun r => r.id = keyId ∧ r.userId = userId)

/-- `load_tenant_credentials`. -/
def load (tenantId exchange : String) (mode : TradingMode) (t : ApiKeyTable) :
    Except CredentialError (String × String) :=
  match db.uuid tenantId with
  | none => .error .notUuid
  | some userId =>
      match t.active (userId, exchange, mode) with
      | [] => .error .notConfigured
      | [r] =>
          match db.cipher.decrypt db.aead r.encryptedApiKey (utf8 tenantId),
            db.cipher.decrypt db.aead r.encryptedSecret (utf8 tenantId) with
          | some apiKey, some secret => .ok (apiKey, secret)
          | _, _ => .error .sealed
      | _ => .error .ambiguous

end ApiKeyStore

section Store

variable (db : ApiKeyStore) {t : ApiKeyTable} {call : StoreCall}

theorem ApiKeyStore.store_of_none (h : db.uuid call.userId = none) :
    db.store call t = (t, none) := by
  rw [ApiKeyStore.store, h]
  rfl

/-- A call with a new id violates no constraint. -/
theorem ApiKeyStore.store_of_fresh {userId : UUID} (h : db.uuid call.userId = some userId)
    (hfresh : call.keyId ∉ t.ids) :
    ∃ t', t.upsert (db.row call userId) = some t' ∧ db.store call t = (t', some call.keyId) := by
  have hsome : (t.upsert (db.row call userId)).isSome = true := by
    unfold ApiKeyTable.upsert
    split
    · rfl
    · rw [dif_neg (show (db.row call userId).id ∉ t.ids from hfresh)]
      rfl
  obtain ⟨t', ht'⟩ := Option.isSome_iff_exists.1 hsome
  refine ⟨t', ht', ?_⟩
  rw [ApiKeyStore.store, h, Option.bind_some, ht']

end Store

/-- What the users do. -/
inductive ApiKeyEvent
  | store (call : StoreCall)
  | delete (keyId : UUID) (userId : String)

/-- The table over time. The id of each new call has not been given before. -/
def apiKeyMachine (db : ApiKeyStore) : Machine ApiKeyTable ApiKeyEvent where
  next t
    | .store call => if call.keyId ∈ t.ids then none else some (db.store call t).1
    | .delete keyId userId => some (db.delete keyId userId t).1

/-! ### What is stored, without encryption -/

/-- An entry of the abstract store. -/
structure VaultEntry where
  id : UUID
  /-- The text of the user id that the entry is sealed for. -/
  owner : String
  apiKey : String
  secret : String
  isActive : Bool := true
  deriving DecidableEq

/-- The abstract store: an entry for a slot. -/
abbrev Vault := ApiKeySlot → Option VaultEntry

namespace Vault

/-- Storing replaces what is secret and keeps the id. -/
def store (v : Vault) (userId : UUID) (call : StoreCall) : Vault :=
  Function.update v (userId, call.exchange, call.tradingMode)
    (some
      { id := (v (userId, call.exchange, call.tradingMode)).elim call.keyId VaultEntry.id
        owner := call.userId
        apiKey := call.apiKey
        secret := call.secret })

/-- Deleting deactivates the entry of the id, if it belongs to the user. -/
def delete (v : Vault) (keyId userId : UUID) : Vault := fun slot =>
  (v slot).map fun e =>
    if e.id = keyId ∧ slot.1 = userId then { e with isActive := false } else e

/-- What an event does; the ids of users are read by `uuid`. -/
def step (uuid : String → Option UUID) (v : Vault) : ApiKeyEvent → Vault
  | .store call => (uuid call.userId).elim v fun userId => v.store userId call
  | .delete keyId userId => (uuid userId).elim v fun userId => v.delete keyId userId

/-- The store after some events. -/
def after (uuid : String → Option UUID) (events : List ApiKeyEvent) : Vault :=
  events.foldl (step uuid) fun _ => none

/-- What a tenant reads. -/
def load (v : Vault) (uuid : String → Option UUID) (tenantId exchange : String)
    (mode : TradingMode) : Except CredentialError (String × String) :=
  match uuid tenantId with
  | none => .error .notUuid
  | some userId =>
      match (v (userId, exchange, mode)).filter VaultEntry.isActive with
      | none => .error .notConfigured
      | some e => if tenantId = e.owner then .ok (e.apiKey, e.secret) else .error .sealed

end Vault

/-- A row that holds an entry. -/
structure ApiKeyRow.Holds (db : ApiKeyStore) (r : ApiKeyRow) (e : VaultEntry) : Prop where
  id : r.id = e.id
  isActive : r.isActive = e.isActive
  apiKey : ∃ iv, r.encryptedApiKey = db.sealFor e.owner iv e.apiKey
  secret : ∃ iv, r.encryptedSecret = db.sealFor e.owner iv e.secret

/-- The table holds the entries of the abstract store, and no others. -/
structure ApiKeyTable.Refines (db : ApiKeyStore) (t : ApiKeyTable) (v : Vault) : Prop where
  holds : ∀ r ∈ t.rows, ∃ e, v r.slot = some e ∧ r.Holds db e
  complete : ∀ slot e, v slot = some e → slot ∈ t.slots

section Refinement

variable {db : ApiKeyStore} {t t' : ApiKeyTable} {v : Vault} {userId keyId : UUID}
  {call : StoreCall} {r : ApiKeyRow} {e : VaultEntry}

theorem Vault.store_self (v : Vault) (db : ApiKeyStore) (userId : UUID) (call : StoreCall) :
    v.store userId call (db.row call userId).slot = some
      { id := (v (db.row call userId).slot).elim call.keyId VaultEntry.id
        owner := call.userId
        apiKey := call.apiKey
        secret := call.secret } :=
  Function.update_self _ _ _

theorem Vault.store_of_ne (v : Vault) (db : ApiKeyStore) {slot : ApiKeySlot}
    (h : slot ≠ (db.row call userId).slot) : v.store userId call slot = v slot :=
  Function.update_of_ne h _ _

/-- A row that is written over holds what is stored. -/
theorem holds_overwrite (hslot : r.slot = (db.row call userId).slot) :
    (ApiKeyRow.overwrite (db.row call userId) r).Holds db
      { id := r.id, owner := call.userId, apiKey := call.apiKey, secret := call.secret } := by
  rw [ApiKeyRow.overwrite, if_pos hslot]
  exact ⟨rfl, rfl, ⟨call.keyIv, rfl⟩, ⟨call.secretIv, rfl⟩⟩

theorem ApiKeyTable.Refines.upsert (h : t.Refines db v)
    (hstore : t.upsert (db.row call userId) = some t') :
    t'.Refines db (v.store userId call) := by
  have hnew {slot : ApiKeySlot} {e : VaultEntry} (he : v.store userId call slot = some e) :
      slot = (db.row call userId).slot ∨ slot ∈ t.slots := by
    by_cases hne : slot = (db.row call userId).slot
    · exact .inl hne
    · rw [v.store_of_ne db hne] at he
      exact .inr (h.complete slot e he)
  unfold ApiKeyTable.upsert at hstore
  split at hstore
  next hslot =>
    obtain rfl := Option.some.inj hstore
    constructor
    · intro r hr
      obtain ⟨r₀, hr₀, rfl⟩ := List.mem_map.1 hr
      obtain ⟨e, he, hholds⟩ := h.holds r₀ hr₀
      rw [ApiKeyRow.slot_overwrite]
      by_cases hsame : r₀.slot = (db.row call userId).slot
      · refine ⟨_, ?_, holds_overwrite hsame⟩
        rw [hsame] at he ⊢
        rw [v.store_self db, he, hholds.id]
        rfl
      · refine ⟨e, (v.store_of_ne db hsame).trans he, ?_⟩
        rw [ApiKeyRow.overwrite, if_neg hsame]
        exact hholds
    · intro slot e he
      rw [ApiKeyTable.slots_update]
      rcases hnew he with rfl | hmem
      · exact hslot
      · exact hmem
  next hslot =>
    split at hstore
    · cases hstore
    · obtain rfl := Option.some.inj hstore
      have hfree : v (db.row call userId).slot = none := by
        by_contra hsome
        obtain ⟨e, he⟩ := Option.ne_none_iff_exists'.1 hsome
        exact hslot (h.complete _ e he)
      constructor
      · intro r hr
        rcases List.mem_cons.1 hr with rfl | hr
        · refine ⟨_, v.store_self db userId call, ?_⟩
          rw [hfree]
          exact ⟨rfl, rfl, ⟨call.keyIv, rfl⟩, ⟨call.secretIv, rfl⟩⟩
        · obtain ⟨e, he, hholds⟩ := h.holds r hr
          have hne : r.slot ≠ (db.row call userId).slot := by
            intro heq
            exact hslot (heq ▸ List.mem_map_of_mem hr)
          exact ⟨e, (v.store_of_ne db hne).trans he, hholds⟩
      · intro slot e he
        rcases hnew he with rfl | hmem
        · exact List.mem_cons_self
        · exact List.mem_cons_of_mem _ hmem

theorem ApiKeyTable.Refines.deactivate (h : t.Refines db v) :
    (t.deactivate keyId userId).Refines db (v.delete keyId userId) := by
  constructor
  · intro r hr
    obtain ⟨r₀, hr₀, rfl⟩ := List.mem_map.1 hr
    obtain ⟨e, he, hholds⟩ := h.holds r₀ hr₀
    rw [ApiKeyRow.slot_deactivate]
    refine ⟨_, congrArg (Option.map _) he, ?_⟩
    have hiff : (r₀.id = keyId ∧ r₀.userId = userId) ↔
        (e.id = keyId ∧ r₀.slot.1 = userId) := by
      rw [hholds.id]
      rfl
    dsimp only
    by_cases hits : r₀.id = keyId ∧ r₀.userId = userId
    · rw [ApiKeyRow.deactivate, if_pos hits, if_pos (hiff.1 hits)]
      exact ⟨hholds.id, rfl, hholds.apiKey, hholds.secret⟩
    · rw [ApiKeyRow.deactivate, if_neg hits, if_neg (mt hiff.2 hits)]
      exact hholds
  · intro slot e he
    obtain ⟨e', he', -⟩ := Option.map_eq_some_iff.1 he
    rw [ApiKeyTable.deactivate, ApiKeyTable.slots_update]
    exact h.complete slot e' he'

/-- A step of the table is that of the abstract store. -/
theorem ApiKeyTable.Refines.step {a : ApiKeyEvent} (h : t.Refines db v)
    (hnext : (apiKeyMachine db).next t a = some t') : t'.Refines db (v.step db.uuid a) := by
  cases a with
  | store call =>
      simp only [apiKeyMachine] at hnext
      split at hnext
      · cases hnext
      next hfresh =>
        obtain rfl := Option.some.inj hnext
        cases huser : db.uuid call.userId with
        | none =>
            simp only [Vault.step, huser, db.store_of_none huser, Option.elim_none]
            exact h
        | some userId =>
            obtain ⟨t', hupsert, hstore⟩ := db.store_of_fresh huser hfresh
            simp only [Vault.step, huser, hstore, Option.elim_some]
            exact h.upsert hupsert
  | delete keyId user =>
      obtain rfl := Option.some.inj hnext
      cases huser : db.uuid user with
      | none =>
          simp only [Vault.step, ApiKeyStore.delete, huser, Option.elim_none]
          exact h
      | some userId =>
          simp only [Vault.step, ApiKeyStore.delete, huser, Option.elim_some]
          exact h.deactivate

/-- What is read of a row that holds an entry. -/
theorem load_of_holds (haead : db.aead.Authenticates) (hr : r ∈ t.rows) (hholds : r.Holds db e)
    {tenantId : String} (htenant : db.uuid tenantId = some r.userId) :
    db.load tenantId r.exchange r.tradingMode t =
      if e.isActive = false then .error .notConfigured
      else if tenantId = e.owner then .ok (e.apiKey, e.secret) else .error .sealed := by
  unfold ApiKeyStore.load
  rw [htenant]
  dsimp only
  rw [show (r.userId, r.exchange, r.tradingMode) = r.slot from rfl, ApiKeyTable.active_of_mem hr]
  cases hactive : e.isActive with
  | false =>
      rw [List.filter_cons_of_neg (by rw [hholds.isActive, hactive]; decide), if_pos rfl]
      rfl
  | true =>
      obtain ⟨keyIv, hkey⟩ := hholds.apiKey
      obtain ⟨secretIv, hsecret⟩ := hholds.secret
      rw [List.filter_cons_of_pos (hholds.isActive.trans hactive), if_neg (by decide)]
      dsimp only [List.filter_nil]
      rw [hkey, hsecret, ApiKeyStore.sealFor, ApiKeyStore.sealFor,
        decrypt_encrypt _ _ _ _ haead, decrypt_encrypt _ _ _ _ haead]
      by_cases howner : tenantId = e.owner
      · rw [if_pos (congrArg utf8 howner), if_pos (congrArg utf8 howner), if_pos howner]
      · rw [if_neg (mt (fun heq => utf8_injective heq) howner), if_neg howner]

theorem load_of_notMem {tenantId exchange : String} {mode : TradingMode}
    (htenant : db.uuid tenantId = some userId) (hslot : (userId, exchange, mode) ∉ t.slots) :
    db.load tenantId exchange mode t = .error .notConfigured := by
  unfold ApiKeyStore.load
  rw [htenant]
  dsimp only
  rw [ApiKeyTable.active_of_notMem hslot]

/-- What a tenant reads of the table is what the abstract store has for it. -/
theorem ApiKeyTable.Refines.load (h : t.Refines db v) (haead : db.aead.Authenticates)
    (tenantId exchange : String) (mode : TradingMode) :
    db.load tenantId exchange mode t = v.load db.uuid tenantId exchange mode := by
  unfold Vault.load
  cases htenant : db.uuid tenantId with
  | none =>
      unfold ApiKeyStore.load
      rw [htenant]
  | some userId =>
      dsimp only
      by_cases hslot : (userId, exchange, mode) ∈ t.slots
      · obtain ⟨r, hr, heq⟩ := List.mem_map.1 hslot
        obtain ⟨e, he, hholds⟩ := h.holds r hr
        cases heq
        rw [load_of_holds haead hr hholds htenant,
          show (r.userId, r.exchange, r.tradingMode) = r.slot from rfl, he, Option.filter_some]
        cases e.isActive with
        | false => rfl
        | true => rfl
      · have hnone : v (userId, exchange, mode) = none := by
          by_contra hsome
          obtain ⟨e, he⟩ := Option.ne_none_iff_exists'.1 hsome
          exact hslot (h.complete _ e he)
        rw [load_of_notMem htenant hslot, hnone]
        rfl

/-- After any run of stores and deletions, whoever makes them, a worker reads what the abstract
store has for its tenant. -/
theorem load_of_run {events : List ApiKeyEvent} (haead : db.aead.Authenticates)
    (hrun : (apiKeyMachine db).run .empty events = some t) (tenantId exchange : String)
    (mode : TradingMode) :
    db.load tenantId exchange mode t =
      (Vault.after db.uuid events).load db.uuid tenantId exchange mode := by
  have hstart : ApiKeyTable.empty.Refines db fun _ => none := by
    constructor
    · intro r hr
      cases hr
    · intro slot e he
      cases he
  have hend : t.Refines db (Vault.after db.uuid events) :=
    Machine.foldl_of_run (fun _ _ _ _ h hnext => h.step hnext) hstart hrun
  exact hend.load haead tenantId exchange mode

end Refinement

/-! ### Two tenants -/

/-- A box that is not closed: the associated data stands before the text. -/
def Aead.openBox : Aead where
  encrypt _ _ text data := (data.flatMap fun b => [1, b]) ++ 0 :: text
  decrypt _ _ sealed data :=
    if ((data.flatMap fun b => [1, b]) ++ [0]).isPrefixOf sealed then
      some (sealed.drop ((data.flatMap fun b => [1, b]) ++ [0]).length)
    else none

/-- The frames of different data are told apart where they end. -/
theorem eq_of_frame_prefix {data data' text : List UInt8}
    (h : ((data'.flatMap fun b => [1, b]) ++ [0]) <+:
      ((data.flatMap fun b => [1, b]) ++ 0 :: text)) :
    data' = data := by
  induction data' generalizing data with
  | nil =>
      cases data with
      | nil => rfl
      | cons b data => simp at h
  | cons b' data' ih =>
      cases data with
      | nil => simp at h
      | cons b data =>
          simp only [List.flatMap_cons, List.cons_append, List.nil_append, List.cons_prefix_cons,
            true_and] at h
          rw [h.1, ih h.2]

theorem authenticates_openBox : Aead.openBox.Authenticates where
  opens key iv text data := by
    have hframe : (data.flatMap fun b => [1, b]) ++ 0 :: text =
        ((data.flatMap fun b => [1, b]) ++ [0]) ++ text := by simp
    simp only [Aead.openBox]
    rw [hframe, if_pos (List.isPrefixOf_iff_prefix.2 (List.prefix_append _ _)), List.drop_left]
  rejects key iv text data data' hne := by
    refine if_neg fun hprefix => hne ?_
    exact eq_of_frame_prefix (List.isPrefixOf_iff_prefix.1 hprefix)

/-- A store in which a user id is one of two digits. -/
def ApiKeyStore.twoTenants : ApiKeyStore where
  uuid text := if text = "1" then some 1 else if text = "2" then some 2 else none
  aead := .openBox
  cipher := getCipher "master"

def InitVector.zeros : InitVector := ⟨List.replicate 12 0, List.length_replicate⟩

/-- A call that stores a key for Pionex. -/
def StoreCall.pionex (userId apiKey : String) (keyId : UUID) : StoreCall where
  userId := userId
  exchange := "pionex"
  tradingMode := .paper
  apiKey := apiKey
  secret := "s"
  keyId := keyId
  keyIv := .zeros
  secretIv := .zeros

/-- Two tenants store their keys, and the first one stores another. -/
def twoTenantsEvents : List ApiKeyEvent :=
  [.store (.pionex "1" "a" 10), .store (.pionex "2" "b" 20), .store (.pionex "1" "c" 11)]

theorem run_twoTenantsEvents :
    ∃ t, (apiKeyMachine .twoTenants).run .empty twoTenantsEvents = some t :=
  Option.isSome_iff_exists.1
    (show ((apiKeyMachine .twoTenants).run .empty twoTenantsEvents).isSome = true by
      decide +kernel)

theorem load_of_run_twoTenantsEvents :
    ∃ t, (apiKeyMachine .twoTenants).run .empty twoTenantsEvents = some t ∧
      ApiKeyStore.twoTenants.load "1" "pionex" .paper t = .ok ("c", "s") := by
  obtain ⟨t, ht⟩ := run_twoTenantsEvents
  refine ⟨t, ht, ?_⟩
  rw [load_of_run authenticates_openBox ht]
  decide +kernel

end Sgr
