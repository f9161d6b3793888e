import QueryDrill.Proofs.Generation.Acceptance
/-!
The catalog that a dataset keeps is never stale.

A dataset is used by one call after the other (`Dataset.Call`, `Dataset.after`). `Dataset.Current` is the
invariant: a kept catalog is the one that the table definitions declare, it stands under their digest, and its
number was given out. A dataset is made with it (`Dataset.Made.current`), each call preserves it
(`Dataset.current_serve`), so every dataset that is reached has it (`Dataset.current_after`). Once definitions are
replaced, a catalog that was given before is given no more (`Dataset.isPast_after`).

Nothing here asks that digests differ where definitions do. Other definitions drop the kept catalog, so a kept
digest is only ever compared with that of the definitions it was made from.
-/

namespace QueryDrill

open Sql

namespace Dataset

/-! ## 1. Calls -/

/-- What a dataset can be called for. -/
inductive Call where
  | catalog
  | setCreateCommands (commands : List String)
  | insertedRows
  | toSql (schemaName : String)
  | toRecord

/-- What a call gives. -/
inductive Answer where
  | catalog (result : Except Failure BuiltCatalog)
  | done
  | rows (result : Except Failure RowCounts)
  | script (text : String)
  | record (r : DatasetRecord)

/-- What a call gives, and the dataset after it. -/
def serve (d : Dataset) : Call → Answer × Dataset
  | .catalog => (.catalog d.catalog.1, d.catalog.2)
  | .setCreateCommands commands => (.done, d.setCreateCommands commands)
  | .insertedRows => (.rows d.insertedRows, d)
  | .toSql schemaName => (.script (d.toSql schemaName), d)
  | .toRecord => (.record d.record, d)

/-- The dataset after some calls. -/
def after (d : Dataset) (calls : List Call) : Dataset := calls.foldl (fun d c => (d.serve c).2) d

/-- Whether a call leaves the table definitions as they are. -/
def Call.keepsDefinitions : Call → Bool
  | setCreateCommands _ => false
  | _ => true

/-- The record after a call: definitions are replaced by the call for it, and nothing else changes. -/
def Call.recordAfter (r : DatasetRecord) : Call → DatasetRecord
  | setCreateCommands commands => { r with createCommands := commands }
  | _ => r

/-- The ways in which a dataset comes into being: from its record, or from an accepted draft. -/
inductive Made : Dataset → Prop where
  | ofRecord (r : DatasetRecord) : Made (.ofRecord r)
  | generated {s : Settings} {request : DatasetRequest} {script script' : Script} {d : Dataset}
      (h : (Dataset.generate s request).against script = (.ok d, script')) : Made d

/-! ## 2. The invariant -/

/-- What the table definitions of a dataset declare. -/
def declared (d : Dataset) : Except Failure Catalog :=
  Catalog.ofTexts d.record.dialect d.record.createCommands

/-- A kept catalog is the one that the definitions declare. -/
def Current (d : Dataset) : Prop :=
  ∀ b, d.cache = some b →
    b.hash = .ofParts d.record.createCommands ∧ d.declared = .ok b.catalog ∧ b.number < d.built

/-- The ways in which a catalog can be asked for. -/
inductive Lookup (d : Dataset) : Except Failure BuiltCatalog × Dataset → Prop where
  /-- The kept catalog is given again. -/
  | kept {b : BuiltCatalog} (hcache : d.cache = some b) : Lookup d (.ok b, d)
  /-- No catalog is kept, and the definitions declare one. -/
  | built {b : BuiltCatalog} (hcache : d.cache = none) (hhash : b.hash = .ofParts d.record.createCommands)
      (hnumber : b.number = d.built) (hdeclared : d.declared = .ok b.catalog) :
      Lookup d (.ok b, ⟨d.record, some b, d.built + 1⟩)
  /-- No catalog is kept, and the definitions declare none. -/
  | failed {f : Failure} (hcache : d.cache = none) (hdeclared : d.declared = .error f) :
      Lookup d (.error f, d)

variable {d : Dataset}

/-- Where the kept catalog is current, its digest is never found to be another one. -/
theorem Current.lookup (h : d.Current) : Lookup d d.catalog := by
  unfold catalog
  cases hcache : d.cache with
  | some b =>
    dsimp only
    rw [if_pos (h b hcache).1]
    exact .kept hcache
  | none =>
    dsimp only
    unfold buildCatalog
    split
    · rename_i c hdeclared
      exact .built hcache rfl rfl hdeclared
    · rename_i f hdeclared
      exact .failed hcache hdeclared

/-- A lookup gives what the definitions declare, fault or catalog. -/
theorem Lookup.map_catalog {result : Except Failure BuiltCatalog × Dataset} (h : d.Current)
    (hl : Lookup d result) : result.1.map BuiltCatalog.catalog = d.declared := by
  cases hl with
  | kept hcache => exact (h _ hcache).2.1.symm
  | built _ _ _ hdeclared => exact hdeclared.symm
  | failed _ hdeclared => exact hdeclared.symm

theorem Lookup.record {result : Except Failure BuiltCatalog × Dataset} (hl : Lookup d result) :
    result.2.record = d.record := by
  cases hl <;> rfl

/-- What a lookup gives is kept. -/
theorem Lookup.cache {result : Except Failure BuiltCatalog × Dataset} {b : BuiltCatalog}
    (hl : Lookup d result) (hb : result.1 = .ok b) : result.2.cache = some b := by
  cases hl with
  | kept hcache => exact Except.ok.inj hb ▸ hcache
  | built => exact Except.ok.inj hb ▸ rfl
  | failed => cases hb

/-- A catalog that is kept is the one that is given. -/
theorem Lookup.eq_of_cache {result : Except Failure BuiltCatalog × Dataset} {b : BuiltCatalog}
    (hl : Lookup d result) (hb : d.cache = some b) : result = (.ok b, d) := by
  cases hl with
  | kept hcache => rw [Option.some.inj (hcache.symm.trans hb)]
  | built hcache => exact absurd (hcache.symm.trans hb) nofun
  | failed hcache => exact absurd (hcache.symm.trans hb) nofun

/-- Where none is given, everything stays as it was. -/
theorem Lookup.eq_of_error {result : Except Failure BuiltCatalog × Dataset} {f : Failure}
    (hl : Lookup d result) (hf : result.1 = .error f) : result.2 = d := by
  cases hl with
  | kept | built => cases hf
  | failed => rfl

theorem Lookup.current {result : Except Failure BuiltCatalog × Dataset} (h : d.Current)
    (hl : Lookup d result) : result.2.Current := by
  cases hl with
  | kept | failed => exact h
  | @built b _ hhash hnumber hdeclared =>
    intro b' hb'
    obtain rfl := Option.some.inj hb'
    exact ⟨hhash, hdeclared, hnumber ▸ Nat.lt_succ_self _⟩

theorem Lookup.built_le {result : Except Failure BuiltCatalog × Dataset} (hl : Lookup d result) :
    d.built ≤ result.2.built := by
  cases hl with
  | kept | failed => exact Nat.le_refl _
  | built => exact Nat.le_succ _

/-- A number was given out, and no catalog is kept under it: the next one that is built will not get it either. -/
structure IsPast (d : Dataset) (n : Nat) : Prop where
  lt_built : n < d.built
  not_kept : ∀ b, d.cache = some b → b.number ≠ n

theorem Lookup.isPast {result : Except Failure BuiltCatalog × Dataset} {n : Nat} (h : d.IsPast n)
    (hl : Lookup d result) : result.2.IsPast n := by
  cases hl with
  | kept | failed => exact h
  | @built b _ _ hnumber =>
    refine ⟨Nat.lt_succ_of_lt h.lt_built, fun b' hb' => ?_⟩
    obtain rfl := Option.some.inj hb'
    exact hnumber ▸ (Nat.ne_of_lt h.lt_built).symm

/-! ## 3. One call and many -/

theorem Made.current (h : d.Made) : d.Current := by
  intro b hb
  cases h with
  | ofRecord r => cases hb
  | generated h =>
    rcases generate_cases h with ⟨f, -, hf⟩ | ⟨draft, catalog, hdrafts, hd⟩
    · cases hf
    · obtain rfl := Except.ok.inj hd
      obtain rfl := Option.some.inj hb
      obtain ⟨reply, -, hreply⟩ := exists_accepted hdrafts
      exact ⟨rfl, (DatasetDraft.of_checkReply hreply).2.1, Nat.zero_lt_one⟩

/-- A call preserves the invariant: definitions that are replaced take the kept catalog with them. -/
theorem current_serve (h : d.Current) (c : Call) : (d.serve c).2.Current := by
  cases c with
  | catalog => exact h.lookup.current h
  | setCreateCommands commands =>
    intro b hb
    cases hb
  | insertedRows | toSql | toRecord => exact h

theorem current_after (h : d.Current) (calls : List Call) : (d.after calls).Current := by
  induction calls generalizing d with
  | nil => exact h
  | cons c calls ih => exact ih (current_serve h c)

theorem record_serve (h : d.Current) (c : Call) : (d.serve c).2.record = c.recordAfter d.record := by
  cases c with
  | catalog => exact h.lookup.record
  | setCreateCommands | insertedRows | toSql | toRecord => rfl

/-- A kept catalog stays, whatever is called for, until other definitions come. -/
theorem cache_serve {b : BuiltCatalog} (h : d.Current) (hb : d.cache = some b) {c : Call}
    (hc : c.keepsDefinitions = true) : (d.serve c).2.cache = some b := by
  cases c with
  | catalog =>
    have hkept : d.catalog = (.ok b, d) := h.lookup.eq_of_cache hb
    rw [serve, hkept]
    exact hb
  | setCreateCommands => cases hc
  | insertedRows | toSql | toRecord => exact hb

theorem built_le_serve (h : d.Current) (c : Call) : d.built ≤ (d.serve c).2.built := by
  cases c with
  | catalog => exact h.lookup.built_le
  | setCreateCommands | insertedRows | toSql | toRecord => exact Nat.le_refl _

theorem cache_after {b : BuiltCatalog} {calls : List Call} (h : d.Current) (hb : d.cache = some b)
    (hcalls : ∀ c ∈ calls, c.keepsDefinitions = true) : (d.after calls).cache = some b := by
  induction calls generalizing d with
  | nil => exact hb
  | cons c calls ih =>
    exact ih (current_serve h c) (cache_serve h hb (hcalls c List.mem_cons_self))
      fun c' hc' => hcalls c' (List.mem_cons_of_mem _ hc')

theorem isPast_serve {n : Nat} (h : d.Current) (hn : d.IsPast n) (c : Call) : (d.serve c).2.IsPast n := by
  cases c with
  | catalog => exact h.lookup.isPast hn
  | setCreateCommands commands => exact ⟨hn.lt_built, nofun⟩
  | insertedRows | toSql | toRecord => exact hn

/-- A number that was given out is past once definitions are replaced, and it stays so. -/
theorem isPast_after {n : Nat} {calls : List Call} (h : d.Current) (hlt : n < d.built)
    (hn : d.IsPast n ∨ ∃ c ∈ calls, c.keepsDefinitions = false) : (d.after calls).IsPast n := by
  induction calls generalizing d with
  | nil => exact hn.resolve_right (by simp)
  | cons c calls ih =>
    refine ih (current_serve h c) (Nat.lt_of_lt_of_le hlt (built_le_serve h c)) ?_
    rcases hn with hpast | ⟨c', hc', hreplaces⟩
    · exact .inl (isPast_serve h hpast c)
    · rcases List.mem_cons.1 hc' with rfl | hc'
      · cases c' with
        | setCreateCommands commands => exact .inl ⟨hlt, nofun⟩
        | catalog | insertedRows | toSql | toRecord => cases hreplaces
      · exact .inr ⟨c', hc', hreplaces⟩

/-! ## 4. What a lookup gives, after any calls -/

/-- Two lookups give one and the same catalog unless definitions come in between. -/
theorem catalog_again {b : BuiltCatalog} {more : List Call} (h : d.Current)
    (hb : d.catalog.1 = .ok b) (hmore : ∀ c ∈ more, c.keepsDefinitions = true) :
    (d.catalog.2.after more).catalog.1 = .ok b := by
  have hnext : d.catalog.2.Current := h.lookup.current h
  have hkept := cache_after hnext (h.lookup.cache hb) hmore
  rw [(current_after hnext more).lookup.eq_of_cache hkept]

/-- Where definitions come in between, the second lookup gives another catalog than the first. -/
theorem number_ne_of_replaced {b b' : BuiltCatalog} {more : List Call} (h : d.Current)
    (hb : d.catalog.1 = .ok b) (hmore : ∃ c ∈ more, c.keepsDefinitions = false)
    (hb' : (d.catalog.2.after more).catalog.1 = .ok b') : b'.number ≠ b.number := by
  have hnext : d.catalog.2.Current := h.lookup.current h
  have hlt : b.number < d.catalog.2.built := (hnext b (h.lookup.cache hb)).2.2
  have hlookup := (current_after hnext more).lookup
  exact (hlookup.isPast (isPast_after hnext hlt (.inr hmore))).not_kept b' (hlookup.cache hb')

/-- **The kept catalog is never stale.** However a dataset was made and whatever it was called for since: a
lookup gives what its present definitions declare, fault included, and a lookup that fails changes nothing;
until other definitions come, later lookups give the same catalog again, and after that another one; and the next
call changes the record only if it replaces the definitions, and then in nothing else. -/
theorem catalog_never_stale (hmade : d.Made) (calls : List Call) :
    (d.after calls).catalog.1.map BuiltCatalog.catalog =
        Catalog.ofTexts (d.after calls).record.dialect (d.after calls).record.createCommands ∧
      (∀ f, (d.after calls).catalog.1 = .error f → (d.after calls).catalog.2 = d.after calls) ∧
      (∀ b more, (d.after calls).catalog.1 = .ok b → (∀ c ∈ more, c.keepsDefinitions = true) →
        ((d.after calls).catalog.2.after more).catalog.1 = .ok b) ∧
      (∀ b b' more, (d.after calls).catalog.1 = .ok b → (∃ c ∈ more, c.keepsDefinitions = false) →
        ((d.after calls).catalog.2.after more).catalog.1 = .ok b' → b'.number ≠ b.number) ∧
      ∀ c, ((d.after calls).serve c).2.record = c.recordAfter (d.after calls).record := by
  have h := current_after hmade.current calls
  exact ⟨h.lookup.map_catalog h, fun f hf => h.lookup.eq_of_error hf,
    fun b more hb hmore => catalog_again h hb hmore,
    fun b b' more hb hmore hb' => number_ne_of_replaced h hb hmore hb', record_serve h⟩

/-- The generated dataset of letters keeps the catalog it was accepted with; text that is no statement makes
a lookup fail; and other definitions make the next one succeed. -/
theorem catalog_never_stale_letters :
    ∃ d : Dataset, d.Made ∧
      let now := d.after [.catalog, .setCreateCommands ["nothing"], .catalog, .toRecord,
        .setCreateCommands ["CREATE TABLE b(id INT)"], .toSql "s"]
      now.catalog.1.map BuiltCatalog.catalog =
          Catalog.ofTexts now.record.dialect now.record.createCommands ∧
        (∀ f, now.catalog.1 = .error f → now.catalog.2 = now) ∧
        (∀ b more, now.catalog.1 = .ok b → (∀ c ∈ more, c.keepsDefinitions = true) →
          (now.catalog.2.after more).catalog.1 = .ok b) ∧
        (∀ b b' more, now.catalog.1 = .ok b → (∃ c ∈ more, c.keepsDefinitions = false) →
          (now.catalog.2.after more).catalog.1 = .ok b' → b'.number ≠ b.number) ∧
        ∀ c, (now.serve c).2.record = c.recordAfter now.record := by
  have hdataset : ((Dataset.generate lettersSettings lettersRequest).against lettersDrafts).1.isOk := by
    decide +kernel
  obtain ⟨d, hd⟩ := Run.exists_eq_ok_of_isOk hdataset
  exact ⟨d, .generated hd, catalog_never_stale (.generated hd) _⟩

end Dataset

end QueryDrill
