import Invetrixa.Access.RoleSync
import Invetrixa.Library.Loops

/-!
# Role sync

After a sync every default role of the tenant has all actions of the modules that it is configured
to have all of; no other permission has changed, and a second sync finds nothing to do.

## Main definitions

- `ConfiguredAll` — a default role is to have all actions of a module
- `Synced` — what a sync has done

## Main results

- `syncRolesWithModules_eq` — the nested loops are one loop over the configured pairs
- `granted_syncPermission`, `granted_syncPermission_of_granted`, `syncPermission_of_granted`
- `sync_adds_missing`
-/

namespace Invetrixa

open Rowstore

/-- A role of the tenant has the name of a default role, which is configured to have all actions of
the module. -/
def ConfiguredAll (roleConfigs : RoleConfigs) (tenantId : Id) (s : AccessStore) (roleId : Id)
    (module : Id × ModuleRef) : Prop :=
  ∃ role roleConfig, s.roles.find? roleId = some role ∧ role.tenantId = tenantId ∧
    roleConfigs.lookup role.name = some roleConfig ∧
    (module.2.name, DefaultPermission.all) ∈ roleConfig ∧ module ∈ s.modules.rows

/-- What a sync has done to the permissions: each configured pair of a role and a module has its
permission, the permissions of other pairs are the same, every permission that is written has
exactly the actions of its module, and a second sync does nothing. -/
structure Synced (roleConfigs : RoleConfigs) (tenantId : Id) (s s' : AccessStore) : Prop where
  granted : ∀ roleId module, ConfiguredAll roleConfigs tenantId s roleId module →
    ∃ id p, s'.rolePermissions.find? id = some p ∧ p.roleId = roleId ∧
      p.moduleRefId = module.1 ∧ module.2.actions ⊆ p.actions
  kept : ∀ id p, (∀ module, ConfiguredAll roleConfigs tenantId s p.roleId module →
      p.moduleRefId ≠ module.1) →
    (s'.rolePermissions.find? id = some p ↔ s.rolePermissions.find? id = some p)
  written : ∀ id p, s'.rolePermissions.find? id = some p →
    s.rolePermissions.find? id = some p ∨ ∃ module,
      ConfiguredAll roleConfigs tenantId s p.roleId module ∧ p.moduleRefId = module.1 ∧
        p.actions = module.2.actions
  stays : ∀ id p, s.rolePermissions.find? id = some p → ∃ p',
    s'.rolePermissions.find? id = some p' ∧ p'.roleId = p.roleId ∧ p'.moduleRefId = p.moduleRefId
  others : s' = { s with rolePermissions := s'.rolePermissions }
  again : syncRolesWithModules roleConfigs tenantId s' = (⟨0, 0⟩, s')

/-- The pair has a permission, with all actions of the module. -/
def Granted (roleId : Id) (module : Id × ModuleRef) (s : AccessStore) : Prop :=
  ∃ p, s.findPermission roleId module.1 = some p ∧ module.2.actions ⊆ p.2.actions

/-- The module that an entry of a configuration asks to sync. -/
def syncedModule (modules : List (Id × ModuleRef)) (entry : String × DefaultPermission) :
    Option (Id × ModuleRef) :=
  match entry.2 with
  | .actions _ => none
  | .all => moduleByName modules entry.1

/-- The pairs of a role and a module that a sync visits. -/
def syncedPairs (roleConfigs : RoleConfigs) (tenantId : Id) (s : AccessStore) :
    List (Id × (Id × ModuleRef)) :=
  (defaultRoles roleConfigs tenantId s).flatMap fun role =>
    (((roleConfigs.lookup role.2.name).getD []).filterMap
      (syncedModule s.modules.rows)).map fun module => (role.1, module)

variable {roleConfigs : RoleConfigs} {tenantId roleId : Id} {s : AccessStore} {sync : Sync}
  {module : Id × ModuleRef}

section Pairs

/-- The loops over roles and modules are one loop over the pairs. -/
theorem syncRolesWithModules_eq :
    syncRolesWithModules roleConfigs tenantId s =
      (syncedPairs roleConfigs tenantId s).foldl
        (fun sync pair => syncPermission pair.1 pair.2 sync) (⟨0, 0⟩, s) := by
  have hrole (sync : Sync) (role : Id × Role) :
      syncRole roleConfigs s.modules.rows sync role =
        ((((roleConfigs.lookup role.2.name).getD []).filterMap
          (syncedModule s.modules.rows)).map fun module => (role.1, module)).foldl
            (fun sync pair => syncPermission pair.1 pair.2 sync) sync := by
    rw [List.foldl_map, List.foldl_filterMap, syncRole]
    cases roleConfigs.lookup role.2.name with
    | none => rfl
    | some roleConfig =>
      refine congrArg (fun f => roleConfig.foldl f sync) ?_
      funext sync entry
      obtain ⟨moduleName, permission⟩ := entry
      cases permission with
      | actions _ => rfl
      | all =>
        simp only [syncModule, syncedModule]
        cases moduleByName s.modules.rows moduleName <;> rfl
  rw [syncRolesWithModules, syncedPairs, List.foldl_flatMap]
  exact congrArg (fun f => (defaultRoles roleConfigs tenantId s).foldl f _)
    (funext fun sync => funext fun role => hrole sync role)

theorem moduleByName_eq_some_iff
    (hnames : (s.modules.rows.map fun m => m.2.name).Nodup) {moduleName : String} :
    moduleByName s.modules.rows moduleName = some module ↔
      module ∈ s.modules.rows ∧ module.2.name = moduleName := by
  constructor
  · intro h
    exact ⟨List.mem_of_find?_eq_some h, by simpa using List.find?_some h⟩
  · rintro ⟨hmem, rfl⟩
    cases hfind : moduleByName s.modules.rows module.2.name with
    | none =>
      have hnone := List.find?_eq_none.mp hfind module hmem
      simp at hnone
    | some module' =>
      have hname : module'.2.name = module.2.name := by simpa using List.find?_some hfind
      exact congrArg some
        (List.inj_on_of_nodup_map hnames (List.mem_of_find?_eq_some hfind) hmem hname)

/-- The pairs that are visited are the configured ones. -/
theorem mem_syncedPairs_iff (hnames : (s.modules.rows.map fun m => m.2.name).Nodup) :
    (roleId, module) ∈ syncedPairs roleConfigs tenantId s ↔
      ConfiguredAll roleConfigs tenantId s roleId module := by
  rw [syncedPairs, ConfiguredAll]
  simp only [List.mem_flatMap, List.mem_map, List.mem_filterMap, defaultRoles, List.mem_filter,
    decide_eq_true_eq]
  constructor
  · rintro ⟨role, ⟨hrole, htenant, _⟩, module', ⟨⟨moduleName, permission⟩, hentry, hmodule⟩, heq⟩
    obtain ⟨rfl, rfl⟩ := Prod.mk.inj heq
    cases permission with
    | actions _ => cases hmodule
    | all =>
      obtain ⟨hmem, rfl⟩ := (moduleByName_eq_some_iff hnames).mp hmodule
      cases hlookup : roleConfigs.lookup role.2.name with
      | none =>
        rw [hlookup] at hentry
        cases hentry
      | some roleConfig =>
        rw [hlookup] at hentry
        exact ⟨role.2, roleConfig, Table.find?_of_mem_rows hrole, htenant, hlookup, hentry, hmem⟩
  · rintro ⟨role, roleConfig, hrole, htenant, hlookup, hentry, hmem⟩
    have hname : ∃ config ∈ roleConfigs, config.1 = role.name := by
      obtain ⟨before, after, rfl, _⟩ := List.lookup_eq_some_iff.mp hlookup
      exact ⟨_, List.mem_append_right _ List.mem_cons_self, rfl⟩
    refine ⟨(roleId, role), ⟨Table.mem_rows_of_find? hrole, htenant, hname⟩, module,
      ⟨(module.2.name, .all), ?_, (moduleByName_eq_some_iff hnames).mpr ⟨hmem, rfl⟩⟩, rfl⟩
    rw [hlookup]
    exact hentry

end Pairs

section Steps

theorem findPermission_spec {p : Id × RolePermission} {moduleRefId : Id}
    (h : s.findPermission roleId moduleRefId = some p) :
    p ∈ s.rolePermissions.rows ∧ p.2.roleId = roleId ∧ p.2.moduleRefId = moduleRefId :=
  ⟨List.mem_of_find?_eq_some h, by simpa using List.find?_some h⟩

theorem findPermission_setActions (id moduleRefId : Id) (actions : List String) :
    (s.setActions id actions).findPermission roleId moduleRefId =
      (s.findPermission roleId moduleRefId).map fun p =>
        if p.1 = id then (p.1, { p.2 with actions }) else p := by
  have hrows : (s.setActions id actions).rolePermissions.rows = s.rolePermissions.rows.map
      fun p => if p.1 = id then (p.1, { p.2 with actions }) else p := by
    refine List.map_congr_left fun p _ => ?_
    simp only [decide_eq_true_eq]
  rw [AccessStore.findPermission, hrows, List.find?_map]
  refine congrArg (Option.map _) (congrArg (fun q => s.rolePermissions.rows.find? q) ?_)
  funext p
  by_cases hp : p.1 = id
  · simp [hp]
  · simp [hp]

/-- The pair that is synced has its permission afterwards. -/
theorem granted_syncPermission : Granted roleId module (syncPermission roleId module sync).2 := by
  rw [syncPermission]
  dsimp only
  cases hfind : sync.2.findPermission roleId module.1 with
  | none =>
    refine ⟨(sync.2.rolePermissions.next,
      { roleId, moduleRefId := module.1, actions := module.2.actions }), ?_, List.Subset.refl _⟩
    show (sync.2.rolePermissions.rows ++ _).find? _ = _
    rw [List.find?_append, show sync.2.rolePermissions.rows.find? _ = none from hfind]
    simp
  | some p =>
    by_cases hmissing : module.2.actions.any fun a => a ∉ p.2.actions
    · simp only [if_pos hmissing]
      refine ⟨(p.1, { p.2 with actions := module.2.actions }), ?_, List.Subset.refl _⟩
      rw [findPermission_setActions, hfind, Option.map_some, if_pos rfl]
    · simp only [if_neg hmissing]
      refine ⟨p, hfind, fun a ha => ?_⟩
      by_contra hnot
      exact hmissing (List.any_eq_true.mpr ⟨a, ha, decide_eq_true hnot⟩)

/-- A pair that has its permission goes on having it when a pair is synced. -/
theorem granted_syncPermission_of_granted {roleId' : Id} {module' : Id × ModuleRef}
    (hmodule : module'.1 = module.1 → module' = module) (h : Granted roleId module sync.2) :
    Granted roleId module (syncPermission roleId' module' sync).2 := by
  obtain ⟨p, hfind, hactions⟩ := h
  rw [syncPermission]
  dsimp only
  cases hother : sync.2.findPermission roleId' module'.1 with
  | none =>
    refine ⟨p, ?_, hactions⟩
    show (sync.2.rolePermissions.rows ++ _).find? _ = _
    rw [List.find?_append, show sync.2.rolePermissions.rows.find? _ = some p from hfind]
    rfl
  | some q =>
    by_cases hmissing : module'.2.actions.any fun a => a ∉ q.2.actions
    · simp only [if_pos hmissing]
      rw [Granted, findPermission_setActions, hfind, Option.map_some]
      by_cases hp : p.1 = q.1
      · -- The permission that is written is the pair's own, and it gets the actions of its module.
        obtain ⟨hpmem, _, hpmodule⟩ := findPermission_spec hfind
        obtain ⟨hqmem, _, hqmodule⟩ := findPermission_spec hother
        have hsame : p = q := List.inj_on_of_nodup_map sync.2.rolePermissions.nodup hpmem hqmem hp
        have hmodules : module' = module := hmodule (by rw [← hqmodule, ← hpmodule, hsame])
        rw [if_pos hp, hmodules]
        exact ⟨_, rfl, List.Subset.refl _⟩
      · rw [if_neg hp]
        exact ⟨p, rfl, hactions⟩
    · simp only [if_neg hmissing]
      exact ⟨p, hfind, hactions⟩

/-- A pair that has its permission gives a sync nothing to do. -/
theorem syncPermission_of_granted (h : Granted roleId module sync.2) :
    syncPermission roleId module sync = sync := by
  obtain ⟨p, hfind, hactions⟩ := h
  have hnone : ¬module.2.actions.any fun a => a ∉ p.2.actions := by
    rw [List.any_eq_true]
    rintro ⟨a, ha, hnot⟩
    exact of_decide_eq_true hnot (hactions ha)
  simp only [syncPermission, hfind, if_neg hnone]

/-- What a step leaves of the tables. -/
theorem others_syncPermission :
    (syncPermission roleId module sync).2 = { sync.2 with
      rolePermissions := (syncPermission roleId module sync).2.rolePermissions } := by
  rw [syncPermission]
  dsimp only
  split
  · split <;> rfl
  · rfl

/-- A permission after a step was there before, or is the pair's with the actions of the module. -/
theorem written_syncPermission {id : Id} {p : RolePermission}
    (h : (syncPermission roleId module sync).2.rolePermissions.find? id = some p) :
    sync.2.rolePermissions.find? id = some p ∨
      (p.roleId = roleId ∧ p.moduleRefId = module.1 ∧ p.actions = module.2.actions) := by
  rw [syncPermission] at h
  dsimp only at h
  cases hfind : sync.2.findPermission roleId module.1 with
  | none =>
    simp only [hfind] at h
    rcases Serial.find?_create_cases h with hold | ⟨_, rfl⟩
    · exact .inl hold
    · exact .inr ⟨rfl, rfl, rfl⟩
  | some q =>
    simp only [hfind] at h
    obtain ⟨hmem, hrole, hmodule⟩ := findPermission_spec hfind
    split at h
    · rcases Table.find?_modify_cases h with ⟨_, hold⟩ | ⟨rfl, q₀, hq₀, rfl⟩
      · exact .inl hold
      · obtain rfl := Option.some.inj ((Table.find?_of_mem_rows hmem).symm.trans hq₀)
        exact .inr ⟨hrole, hmodule, rfl⟩
    · exact .inl h

/-- A permission that was there before a step stays, with its role and module, and all of it unless
it is the pair's. -/
theorem stays_syncPermission (roleId : Id) (module : Id × ModuleRef) {id : Id}
    {p : RolePermission} (h : sync.2.rolePermissions.find? id = some p) :
    ∃ p', (syncPermission roleId module sync).2.rolePermissions.find? id = some p' ∧
      p'.roleId = p.roleId ∧ p'.moduleRefId = p.moduleRefId ∧
      (p' = p ∨ (p.roleId = roleId ∧ p.moduleRefId = module.1)) := by
  rw [syncPermission]
  dsimp only
  cases hfind : sync.2.findPermission roleId module.1 with
  | none => exact ⟨p, Serial.find?_create_of_some h _, rfl, rfl, .inl rfl⟩
  | some q =>
    obtain ⟨hmem, hrole, hmodule⟩ := findPermission_spec hfind
    dsimp only
    split
    · by_cases hid : id = q.1
      · subst hid
        obtain rfl := Option.some.inj ((Table.find?_of_mem_rows hmem).symm.trans h)
        exact ⟨_, Serial.find?_modify_of_some h _, rfl, rfl, .inr ⟨hrole, hmodule⟩⟩
      · refine ⟨p, ?_, rfl, rfl, .inl rfl⟩
        show (sync.2.rolePermissions.modify q.1 _).find? id = some p
        rw [Serial.toTable_modify, Table.find?_modify, if_neg hid]
        exact h
    · exact ⟨p, h, rfl, rfl, .inl rfl⟩

end Steps

section Loops

/-- The loop over pairs. -/
def syncPairs (pairs : List (Id × (Id × ModuleRef))) (sync : Sync) : Sync :=
  pairs.foldl (fun sync pair => syncPermission pair.1 pair.2 sync) sync

variable {pairs : List (Id × (Id × ModuleRef))}

theorem others_syncPairs :
    (syncPairs pairs sync).2 = { sync.2 with
      rolePermissions := (syncPairs pairs sync).2.rolePermissions } := by
  induction pairs generalizing sync with
  | nil => rfl
  | cons pair rest ih =>
    show (syncPairs rest (syncPermission pair.1 pair.2 sync)).2 = _
    rw [ih, others_syncPermission]
    rfl

theorem written_syncPairs {id : Id} {p : RolePermission}
    (h : (syncPairs pairs sync).2.rolePermissions.find? id = some p) :
    sync.2.rolePermissions.find? id = some p ∨ ∃ pair ∈ pairs,
      p.roleId = pair.1 ∧ p.moduleRefId = pair.2.1 ∧ p.actions = pair.2.2.actions := by
  induction pairs generalizing sync with
  | nil => exact .inl h
  | cons pair rest ih =>
    rcases ih h with hstep | ⟨later, hlater, hwritten⟩
    · rcases written_syncPermission hstep with hold | hwritten
      · exact .inl hold
      · exact .inr ⟨pair, List.mem_cons_self, hwritten⟩
    · exact .inr ⟨later, List.mem_cons_of_mem _ hlater, hwritten⟩

theorem stays_syncPairs (pairs : List (Id × (Id × ModuleRef))) (sync : Sync) {id : Id}
    {p : RolePermission} (h : sync.2.rolePermissions.find? id = some p) :
    ∃ p', (syncPairs pairs sync).2.rolePermissions.find? id = some p' ∧
      p'.roleId = p.roleId ∧ p'.moduleRefId = p.moduleRefId ∧
      (p' = p ∨ ∃ pair ∈ pairs, p.roleId = pair.1 ∧ p.moduleRefId = pair.2.1) := by
  induction pairs generalizing sync p with
  | nil => exact ⟨p, h, rfl, rfl, .inl rfl⟩
  | cons pair rest ih =>
    obtain ⟨p₁, hstep, hrole, hmodule, hfirst⟩ :=
      stays_syncPermission pair.1 pair.2 h
    obtain ⟨p', hrest, hrole', hmodule', hlater⟩ := ih _ hstep
    refine ⟨p', hrest, hrole'.trans hrole, hmodule'.trans hmodule, ?_⟩
    rcases hfirst with rfl | hpair
    · rcases hlater with rfl | ⟨later, hmem, hpair⟩
      · exact .inl rfl
      · exact .inr ⟨later, List.mem_cons_of_mem _ hmem, hpair⟩
    · exact .inr ⟨pair, List.mem_cons_self, hpair⟩

/-- Every pair has its permission after the loop, if no two pairs differ in the module of an id. -/
theorem granted_syncPairs (sync : Sync)
    (hmodules : ∀ x ∈ pairs, ∀ y ∈ pairs, x.2.1 = y.2.1 → x.2 = y.2) :
    ∀ pair ∈ pairs, Granted pair.1 pair.2 (syncPairs pairs sync).2 :=
  Loops.forall_foldl (P := fun (pair : Id × (Id × ModuleRef)) (sync : Sync) =>
      Granted pair.1 pair.2 sync.2)
    (fun _ x hx y hy h => granted_syncPermission_of_granted (hmodules x hx y hy) h)
    (fun _ _ _ => granted_syncPermission) sync

end Loops

/-- A sync gives every default role all actions of the modules it is configured to have all of, and
changes no other permission; a second sync does nothing. -/
theorem sync_adds_missing (roleConfigs : RoleConfigs) (tenantId : Id) (s : AccessStore)
    (hnames : (s.modules.rows.map fun m => m.2.name).Nodup) :
    Synced roleConfigs tenantId s (syncRolesWithModules roleConfigs tenantId s).2 := by
  set pairs := syncedPairs roleConfigs tenantId s with hpairs
  have hsync : syncRolesWithModules roleConfigs tenantId s = syncPairs pairs (⟨0, 0⟩, s) :=
    syncRolesWithModules_eq
  have hmem {roleId : Id} {module : Id × ModuleRef} : (roleId, module) ∈ pairs ↔
      ConfiguredAll roleConfigs tenantId s roleId module := mem_syncedPairs_iff hnames
  have hmodules : ∀ x ∈ pairs, ∀ y ∈ pairs, x.2.1 = y.2.1 → x.2 = y.2 := by
    rintro x hx y hy hid
    obtain ⟨_, _, _, _, _, _, hxmem⟩ := hmem.mp hx
    obtain ⟨_, _, _, _, _, _, hymem⟩ := hmem.mp hy
    exact List.inj_on_of_nodup_map s.modules.nodup hxmem hymem hid
  have hgranted := granted_syncPairs (⟨0, 0⟩, s) hmodules
  rw [hsync]
  constructor
  case granted =>
    intro roleId module hconfigured
    obtain ⟨p, hfind, hactions⟩ := hgranted _ (hmem.mpr hconfigured)
    obtain ⟨hrow, hrole, hmodule⟩ := findPermission_spec hfind
    exact ⟨p.1, p.2, Table.find?_of_mem_rows hrow, hrole, hmodule, hactions⟩
  case kept =>
    intro id p hother
    constructor
    · intro h
      rcases written_syncPairs h with hold | ⟨pair, hpair, hrole, hmodule, _⟩
      · exact hold
      · exact absurd hmodule (hother pair.2 (hrole ▸ hmem.mp hpair))
    · intro h
      obtain ⟨p', hafter, _, _, rfl | ⟨pair, hpair, hrole, hmodule⟩⟩ :=
        stays_syncPairs pairs (⟨0, 0⟩, s) h
      · exact hafter
      · exact absurd hmodule (hother pair.2 (hrole ▸ hmem.mp hpair))
  case written =>
    intro id p h
    rcases written_syncPairs h with hold | ⟨pair, hpair, hrole, hmodule, hactions⟩
    · exact .inl hold
    · exact .inr ⟨pair.2, hrole ▸ hmem.mp hpair, hmodule, hactions⟩
  case stays =>
    intro id p h
    obtain ⟨p', hafter, hrole, hmodule, _⟩ :=
      stays_syncPairs pairs (⟨0, 0⟩, s) h
    exact ⟨p', hafter, hrole, hmodule⟩
  case others => exact others_syncPairs
  case again =>
    -- Roles and modules are the same, so that the same pairs are visited.
    have hsame : syncedPairs roleConfigs tenantId (syncPairs pairs (⟨0, 0⟩, s)).2 = pairs := by
      rw [others_syncPairs]
      rfl
    rw [syncRolesWithModules_eq, hsame]
    exact Loops.foldl_eq_self fun pair hpair => syncPermission_of_granted (hgranted pair hpair)

/-- The roles of a shop from before there were customers, and with fewer actions on products. -/
def rolesOfShop : AccessStore :=
  { AccessStore.initial Serial.empty
      ((Serial.empty.create ⟨"Product", ["product.view", "product.delete"]⟩).create
        ⟨"Customer", ["customer.view"]⟩) with
    tenants := Serial.empty.create ⟨"Shop", false⟩
    roles := (Serial.empty.create ⟨"SuperAdmin", 0⟩).create ⟨"Keeper", 0⟩
    rolePermissions := (Serial.empty.create ⟨0, 0, ["product.view"]⟩).create
      ⟨1, 0, ["product.view"]⟩ }

theorem sync_adds_missing_shop :
    Synced tenantRolePermissions 0 rolesOfShop
      (syncRolesWithModules tenantRolePermissions 0 rolesOfShop).2 :=
  sync_adds_missing tenantRolePermissions 0 rolesOfShop (by decide)

example : (syncRolesWithModules tenantRolePermissions 0 rolesOfShop).1 = ⟨1, 1⟩ := by decide +kernel

end Invetrixa
