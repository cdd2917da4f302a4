import Sgr.Saas.ApiKeys

/-!
# The keys of one tenant

What a worker reads depends on the events of its own tenant alone. And the id that
`store_api_key` answers is that of the stored row only when the slot was free before.
-/

open Concurrency

namespace Sgr

/-! ### The tenants do not interfere -/

/-- The event is one of the user. -/
def ApiKeyEvent.isOf (uuid : String → Option UUID) (userId : UUID) : ApiKeyEvent → Bool
  | .store call => uuid call.userId = some userId
  | .delete _ user => uuid user = some userId

section Tenants

variable {db : ApiKeyStore} {t t' : ApiKeyTable} {userId other keyId : UUID} {call : StoreCall}
  {new : ApiKeyRow}

theorem ApiKeyTable.mem_slots_ofUser (h : new.userId = userId) :
    new.slot ∈ (t.ofUser userId).slots ↔ new.slot ∈ t.slots := by
  constructor
  · intro hmem
    obtain ⟨r, hr, heq⟩ := List.mem_map.1 hmem
    exact List.mem_map.2 ⟨r, List.mem_of_mem_filter hr, heq⟩
  · intro hmem
    obtain ⟨r, hr, heq⟩ := List.mem_map.1 hmem
    have huser : r.userId = userId := (congrArg Prod.fst heq).trans h
    exact List.mem_map.2 ⟨r, List.mem_filter.2 ⟨hr, decide_eq_true huser⟩, heq⟩

theorem ApiKeyTable.not_mem_ids_ofUser (h : keyId ∉ t.ids) : keyId ∉ (t.ofUser userId).ids := by
  intro hmem
  obtain ⟨r, hr, heq⟩ := List.mem_map.1 hmem
  exact h (List.mem_map.2 ⟨r, List.mem_of_mem_filter hr, heq⟩)

theorem ApiKeyTable.ofUser_update {f : ApiKeyRow → ApiKeyRow} (hslot : ∀ r, (f r).slot = r.slot)
    (hid : ∀ r, (f r).id = r.id) :
    (t.update f hslot hid).ofUser userId = (t.ofUser userId).update f hslot hid := by
  apply ApiKeyTable.ext
  have huser : (fun r : ApiKeyRow => decide (r.userId = userId)) ∘ f =
      fun r => decide (r.userId = userId) := by
    funext r
    have hfst : (f r).userId = r.userId := congrArg Prod.fst (hslot r)
    rw [Function.comp_apply, hfst]
  rw [ApiKeyTable.rows_ofUser, ApiKeyTable.rows_update, ApiKeyTable.rows_update,
    ApiKeyTable.rows_ofUser, List.filter_map, huser]

/-- An update that leaves the rows of the user alone. -/
theorem ApiKeyTable.ofUser_update_of_fixed {f : ApiKeyRow → ApiKeyRow}
    (hslot : ∀ r, (f r).slot = r.slot) (hid : ∀ r, (f r).id = r.id)
    (hfixed : ∀ r, r.userId = userId → f r = r) :
    (t.update f hslot hid).ofUser userId = t.ofUser userId := by
  rw [ApiKeyTable.ofUser_update]
  apply ApiKeyTable.ext
  rw [ApiKeyTable.rows_update]
  refine (List.map_congr_left fun r hr => ?_).trans (List.map_id _)
  exact hfixed r (of_decide_eq_true (List.mem_filter.1 hr).2)

theorem ApiKeyTable.upsert_ofUser (h : new.userId = userId) (hstore : t.upsert new = some t') :
    (t.ofUser userId).upsert new = some (t'.ofUser userId) := by
  unfold ApiKeyTable.upsert at hstore ⊢
  split at hstore
  next hslot =>
    obtain rfl := Option.some.inj hstore
    rw [dif_pos ((ApiKeyTable.mem_slots_ofUser h).2 hslot), ApiKeyTable.ofUser_update]
  next hslot =>
    split at hstore
    · cases hstore
    next hid =>
      obtain rfl := Option.some.inj hstore
      rw [dif_neg (mt (ApiKeyTable.mem_slots_ofUser h).1 hslot),
        dif_neg (ApiKeyTable.not_mem_ids_ofUser hid)]
      refine congrArg some (ApiKeyTable.ext ?_)
      rw [ApiKeyTable.rows_insert, ApiKeyTable.rows_ofUser, ApiKeyTable.rows_ofUser,
        ApiKeyTable.rows_insert, List.filter_cons_of_pos (by simpa using h)]

theorem ApiKeyTable.ofUser_upsert_of_ne (h : new.userId ≠ userId)
    (hstore : t.upsert new = some t') : t'.ofUser userId = t.ofUser userId := by
  unfold ApiKeyTable.upsert at hstore
  split at hstore
  · obtain rfl := Option.some.inj hstore
    refine ApiKeyTable.ofUser_update_of_fixed _ _ fun r hr => ?_
    have hne : r.slot ≠ new.slot := fun heq => h ((congrArg Prod.fst heq).symm.trans hr)
    rw [ApiKeyRow.overwrite, if_neg hne]
  · split at hstore
    · cases hstore
    · obtain rfl := Option.some.inj hstore
      apply ApiKeyTable.ext
      rw [ApiKeyTable.rows_ofUser, ApiKeyTable.rows_insert, ApiKeyTable.rows_ofUser,
        List.filter_cons_of_neg (by simpa using h)]

theorem ApiKeyTable.ofUser_deactivate_of_ne (h : other ≠ userId) :
    (t.deactivate keyId other).ofUser userId = t.ofUser userId := by
  refine ApiKeyTable.ofUser_update_of_fixed _ _ fun r hr => ?_
  rw [ApiKeyRow.deactivate, if_neg fun hmatch => h (hmatch.2.symm.trans hr)]

/-- The events of a user act on the rows of the user, and those of the others do not. -/
theorem unwinds_ofUser (db : ApiKeyStore) (userId : UUID) :
    (apiKeyMachine db).Unwinds (·.ofUser userId) (·.isOf db.uuid userId) where
  acts := by
    intro s a t hown hnext
    cases a with
    | store call =>
        have huser : db.uuid call.userId = some userId := of_decide_eq_true hown
        simp only [apiKeyMachine] at hnext ⊢
        split at hnext
        · cases hnext
        next hfresh =>
          obtain rfl := Option.some.inj hnext
          have hfresh' : call.keyId ∉ (s.ofUser userId).ids :=
            ApiKeyTable.not_mem_ids_ofUser hfresh
          obtain ⟨t', hupsert, hstore⟩ := db.store_of_fresh huser hfresh
          obtain ⟨u, hupsert', hstore'⟩ := db.store_of_fresh huser hfresh'
          have hsame : (s.ofUser userId).upsert (db.row call userId) = some (t'.ofUser userId) :=
            ApiKeyTable.upsert_ofUser rfl hupsert
          rw [hupsert'] at hsame
          rw [if_neg hfresh', hstore', hstore]
          exact hsame
    | delete keyId user =>
        have huser : db.uuid user = some userId := of_decide_eq_true hown
        obtain rfl := Option.some.inj hnext
        simp only [apiKeyMachine, ApiKeyStore.delete, huser]
        exact congrArg some (ApiKeyTable.ofUser_update _ _).symm
  keeps := by
    intro s a t hown hnext
    cases a with
    | store call =>
        have huser : db.uuid call.userId ≠ some userId := of_decide_eq_false hown
        simp only [apiKeyMachine] at hnext
        split at hnext
        · cases hnext
        next hfresh =>
          obtain rfl := Option.some.inj hnext
          cases hother : db.uuid call.userId with
          | none => rw [db.store_of_none hother]
          | some other =>
              obtain ⟨t', hupsert, hstore⟩ := db.store_of_fresh hother hfresh
              rw [hstore]
              refine ApiKeyTable.ofUser_upsert_of_ne (fun heq => ?_) hupsert
              exact huser (hother.trans (congrArg some heq))
    | delete keyId user =>
        have huser : db.uuid user ≠ some userId := of_decide_eq_false hown
        obtain rfl := Option.some.inj hnext
        cases hother : db.uuid user with
        | none => simp only [ApiKeyStore.delete, hother]
        | some other =>
            simp only [ApiKeyStore.delete, hother]
            refine ApiKeyTable.ofUser_deactivate_of_ne fun heq => ?_
            exact huser (hother.trans (congrArg some heq))

theorem ApiKeyTable.active_ofUser (t : ApiKeyTable) (userId : UUID) (exchange : String)
    (mode : TradingMode) :
    (t.ofUser userId).active (userId, exchange, mode) = t.active (userId, exchange, mode) := by
  rw [ApiKeyTable.active, ApiKeyTable.rows_ofUser, List.filter_filter, ApiKeyTable.active]
  refine List.filter_congr fun r _ => ?_
  rw [← Bool.decide_and, decide_eq_decide]
  constructor
  · rintro ⟨hrow, -⟩
    exact hrow
  · intro hrow
    exact ⟨hrow, congrArg Prod.fst hrow.1⟩

/-- What a worker reads after any run of the users is what it reads after the events of its own
tenant alone. -/
theorem load_eq_of_own_events {events : List ApiKeyEvent} {s : ApiKeyTable} {tenantId : String}
    (htenant : db.uuid tenantId = some userId)
    (hrun : (apiKeyMachine db).run s events = some t) :
    ∃ t', (apiKeyMachine db).run (s.ofUser userId) (events.filter (·.isOf db.uuid userId)) =
        some t' ∧
      ∀ exchange mode, db.load tenantId exchange mode t = db.load tenantId exchange mode t' := by
  refine ⟨t.ofUser userId, (unwinds_ofUser db userId).run_filter hrun, fun exchange mode => ?_⟩
  rw [ApiKeyStore.load, ApiKeyStore.load, htenant]
  dsimp only
  rw [t.active_ofUser]

end Tenants

/-! ### The id that is answered -/

section Answer

variable {db : ApiKeyStore} {t : ApiKeyTable} {userId : UUID} {call : StoreCall}

/-- Without a row of the id nothing is deactivated. -/
theorem delete_of_notMem {keyId : UUID} {user : String} (huser : db.uuid user = some userId)
    (h : keyId ∉ t.ids) : db.delete keyId user t = (t, false) := by
  have hmiss : ∀ r ∈ t.rows, ¬ (r.id = keyId ∧ r.userId = userId) := fun r hr hmatch =>
    h (hmatch.1 ▸ List.mem_map_of_mem hr)
  have hrows : t.deactivate keyId userId = t := by
    apply ApiKeyTable.ext
    rw [ApiKeyTable.deactivate, ApiKeyTable.rows_update]
    refine (List.map_congr_left fun r hr => ?_).trans (List.map_id _)
    exact if_neg (hmiss r hr)
  have hnone : (t.rows.any fun r => r.id = keyId ∧ r.userId = userId) = false :=
    List.any_eq_false.2 fun r hr => by simpa using hmiss r hr
  unfold ApiKeyStore.delete
  rw [huser]
  dsimp only
  rw [hrows, hnone]

/-- The id that a call answers is that of the stored row only if the slot was free: then a
deletion with it takes the key away. Otherwise the deletion finds no row, and a worker goes on
reading what has been stored. -/
theorem delete_answered_id (haead : db.aead.Authenticates)
    (huser : db.uuid call.userId = some userId) (hfresh : call.keyId ∉ t.ids) :
    (db.store call t).2 = some call.keyId ∧
      (db.delete call.keyId call.userId (db.store call t).1).2 =
        decide ((userId, call.exchange, call.tradingMode) ∉ t.slots) ∧
      db.load call.userId call.exchange call.tradingMode
          (db.delete call.keyId call.userId (db.store call t).1).1 =
        if (userId, call.exchange, call.tradingMode) ∈ t.slots then .ok (call.apiKey, call.secret)
        else .error .notConfigured := by
  obtain ⟨t', hupsert, hstore⟩ := db.store_of_fresh huser hfresh
  rw [hstore]
  refine ⟨rfl, ?_⟩
  unfold ApiKeyTable.upsert at hupsert
  split at hupsert
  next hslot =>
    obtain rfl := Option.some.inj hupsert
    have htaken : (userId, call.exchange, call.tradingMode) ∈ t.slots := hslot
    obtain ⟨r, hr, heq⟩ := List.mem_map.1 hslot
    -- the stored row keeps its id, so that the deletion finds none
    rw [delete_of_notMem huser (by rwa [ApiKeyTable.ids_update]), if_pos htaken]
    refine ⟨(decide_eq_false (not_not_intro htaken)).symm, ?_⟩
    have hrow : (ApiKeyRow.overwrite (db.row call userId) r).slot =
        (userId, call.exchange, call.tradingMode) := (ApiKeyRow.slot_overwrite _ r).trans heq
    have hmem : ApiKeyRow.overwrite (db.row call userId) r ∈
        (t.update (db.row call userId).overwrite (ApiKeyRow.slot_overwrite _)
          (ApiKeyRow.id_overwrite _)).rows := List.mem_map_of_mem hr
    have hload := load_of_holds haead hmem (holds_overwrite heq)
      (huser.trans (congrArg some (congrArg Prod.fst hrow).symm))
    rw [show (ApiKeyRow.overwrite (db.row call userId) r).exchange = call.exchange from
        congrArg (fun slot => slot.2.1) hrow,
      show (ApiKeyRow.overwrite (db.row call userId) r).tradingMode = call.tradingMode from
        congrArg (fun slot => slot.2.2) hrow, if_neg (by simp), if_pos rfl] at hload
    exact hload
  next hslot =>
    have hfree : (userId, call.exchange, call.tradingMode) ∉ t.slots := hslot
    split at hupsert
    · cases hupsert
    next hid =>
      obtain rfl := Option.some.inj hupsert
      have hhit : (db.row call userId).deactivate call.keyId userId =
          { db.row call userId with isActive := false } := if_pos ⟨rfl, rfl⟩
      have hmem : ({ db.row call userId with isActive := false } : ApiKeyRow) ∈
          ((t.insert (db.row call userId) hslot hid).deactivate call.keyId userId).rows := by
        rw [← hhit]
        exact List.mem_map_of_mem List.mem_cons_self
      unfold ApiKeyStore.delete
      rw [huser, if_neg hfree]
      dsimp only
      constructor
      · rw [decide_eq_true hfree]
        exact List.any_eq_true.2 ⟨db.row call userId, List.mem_cons_self, decide_eq_true ⟨rfl, rfl⟩⟩
      · exact load_of_holds haead hmem
          (e := { id := call.keyId, owner := call.userId, apiKey := call.apiKey
                  secret := call.secret, isActive := false })
          ⟨rfl, rfl, ⟨call.keyIv, rfl⟩, ⟨call.secretIv, rfl⟩⟩ huser

end Answer

theorem load_eq_of_own_events_twoTenantsEvents :
    ∃ t t', (apiKeyMachine .twoTenants).run .empty twoTenantsEvents = some t ∧
      (apiKeyMachine .twoTenants).run (ApiKeyTable.empty.ofUser 1)
        [.store (.pionex "1" "a" 10), .store (.pionex "1" "c" 11)] = some t' ∧
      ApiKeyStore.twoTenants.load "1" "pionex" .paper t =
        ApiKeyStore.twoTenants.load "1" "pionex" .paper t' := by
  obtain ⟨t, ht⟩ := run_twoTenantsEvents
  have htenant : ApiKeyStore.twoTenants.uuid "1" = some 1 := rfl
  obtain ⟨t', ht', hload⟩ := load_eq_of_own_events htenant ht
  exact ⟨t, t', ht, ht', hload "pionex" .paper⟩

theorem delete_answered_id_twoTenantsEvents :
    ∃ t, (apiKeyMachine .twoTenants).run .empty twoTenantsEvents = some t ∧
      ApiKeyStore.twoTenants.load "1" "pionex" .paper
        (ApiKeyStore.twoTenants.delete 12 "1"
          (ApiKeyStore.twoTenants.store (.pionex "1" "d" 12) t).1).1 = .ok ("d", "s") := by
  obtain ⟨t, ht, hids⟩ := (Option.any_eq_true _ _).1
    (show ((apiKeyMachine .twoTenants).run .empty twoTenantsEvents).any
      (fun t => decide (12 ∉ t.ids ∧ ((1, "pionex", .paper) : ApiKeySlot) ∈ t.slots)) = true by
        decide +kernel)
  obtain ⟨hfresh, htaken⟩ := of_decide_eq_true hids
  have huser : ApiKeyStore.twoTenants.uuid (StoreCall.pionex "1" "d" 12).userId = some 1 := rfl
  obtain ⟨-, -, hload⟩ := delete_answered_id authenticates_openBox huser hfresh
  exact ⟨t, ht, hload.trans (if_pos htaken)⟩

end Sgr
