import QueryDrill.Config.Layer
import QueryDrill.Proofs.Fallible
import QueryDrill.Proofs.Toml.Keys
/-!
Layers of a configuration are resolved field by field.

`Config.IsResolved` says of a configuration what each of its fields is: what the last file that sets the field sets it
to, unless the environment sets it, and its default if nothing does. There is one such configuration for some files
and an environment (`IsResolved.unique`), and loading finds it or a fault in it (`load_resolves`).

A layer changes what is known of each provider apart from all others (`provider_overlay`), and each of its fields apart
from all other fields; `foldl_or` and `foldl_getD` carry such a change through all layers. That a file says of each
provider at one place what it says of it comes from its tables, which have no key twice (`nodup_providers`).
-/

namespace QueryDrill

/-! ## 1. The last layer that sets a field -/

section Fields

variable {α β σ : Type} {step : σ → α → σ} {field : α → Option β}

/-- What the last of some layers that sets a field sets it to. -/
def lastSet (field : α → Option β) (layers : List α) : Option β := layers.reverse.findSome? field

theorem lastSet_cons (field : α → Option β) (l : α) (ls : List α) :
    lastSet field (l :: ls) = (lastSet field ls).or (field l) := by
  rw [lastSet, List.reverse_cons, List.findSome?_append, List.findSome?_singleton, lastSet]

/-- A field that each layer sets or leaves as it is. -/
theorem foldl_or (read : σ → Option β) {ls : List α} (h : ∀ l ∈ ls, ∀ s, read (step s l) = (field l).or (read s))
    (s : σ) : read (ls.foldl step s) = (lastSet field ls).or (read s) := by
  induction ls generalizing s with
  | nil => rfl
  | cons l ls ih =>
    obtain ⟨hl, hls⟩ := List.forall_mem_cons.1 h
    rw [List.foldl_cons, ih hls, hl, lastSet_cons, Option.or_assoc]

/-- The same of a field that always has a value. -/
theorem foldl_getD (read : σ → β) {ls : List α} (h : ∀ l ∈ ls, ∀ s, read (step s l) = (field l).getD (read s))
    (s : σ) : read (ls.foldl step s) = (lastSet field ls).getD (read s) := by
  have hsome : ∀ l ∈ ls, ∀ s, some (read (step s l)) = (field l).or (some (read s)) := by
    intro l hl s
    rw [h l hl, Option.or_some]
  have hfold := foldl_or (fun s => some (read s)) hsome s
  rwa [Option.or_some, Option.some.injEq] at hfold

end Fields

/-! ## 2. What a file says -/

/-- The layer that says nothing of a provider. -/
def ProviderLayer.silent : ProviderLayer := ⟨none, none, none, none⟩

namespace ConfigLayer

/-- Whether a layer mentions a provider. -/
def Mentions (l : ConfigLayer) (name : String) : Prop := name ∈ l.providers.map Prod.fst

/-- What a layer says of a provider. -/
def about (l : ConfigLayer) (name : String) : ProviderLayer := (l.providers.lookup name).getD .silent

theorem map_fst_of_mapM {β : Type} {read : Json → Option β} {fields : List (String × Json)} {es : List (String × β)}
    (h : (fields.mapM fun (name, v) => do return (name, ← read v)) = some es) :
    es.map Prod.fst = fields.map Prod.fst := by
  induction fields generalizing es with
  | nil =>
    cases h
    rfl
  | cons f fields ih =>
    rw [List.mapM_cons] at h
    obtain ⟨e, he, h⟩ := Option.bind_eq_some_iff.1 h
    obtain ⟨es', hes, h⟩ := Option.bind_eq_some_iff.1 h
    obtain ⟨b, -, he⟩ := Option.bind_eq_some_iff.1 he
    cases h
    cases he
    rw [List.map_cons, List.map_cons, ih hes]

theorem nodup_of_providersOfJson? {v : Json} {es : List (String × ProviderLayer)} (hv : v.Distinct)
    (h : providersOfJson? v = some es) : (es.map Prod.fst).Nodup := by
  cases hv with
  | object hkeys _ => exact map_fst_of_mapM h ▸ hkeys
  | null | bool | number | string | array => cases h

/-- The value of a field of a record has no key twice if the record has none. -/
theorem distinct_of_field? {v : Json} {count : Nat} {r : JsonRecord} {position : Nat} {name : String} {u : Json}
    (hv : v.Distinct) (hr : JsonRecord.ofJson? count v = some r) (hu : r.field? position name = some u) :
    u.Distinct := by
  cases hv with
  | object _ hvalues =>
    cases hr
    obtain ⟨before, after, hfields, -⟩ := List.lookup_eq_some_iff.1 hu
    exact hvalues (name, u) (hfields ▸ List.mem_append_right _ List.mem_cons_self)
  | array h =>
    rw [JsonRecord.ofJson?] at hr
    split at hr
    · cases hr
      exact h u (List.mem_of_getElem? hu)
    · cases hr
  | null | bool | number | string => cases hr

/-- A file mentions each provider once. -/
theorem nodup_providers {path text : String} {l : ConfigLayer} (h : ofFile path text = .ok l) :
    (l.providers.map Prod.fst).Nodup := by
  unfold ofFile at h
  split at h
  · rename_i hread
    cases h
    obtain ⟨v, hparse, hread⟩ := Option.bind_eq_some_iff.1 hread
    obtain ⟨r, hr, hread⟩ := Option.bind_eq_some_iff.1 hread
    obtain ⟨es, hes, hread⟩ := Option.bind_eq_some_iff.1 hread
    obtain ⟨g, -, hread⟩ := Option.bind_eq_some_iff.1 hread
    cases hread
    unfold JsonRecord.withDefault at hes
    split at hes
    · rename_i u hu
      exact nodup_of_providersOfJson? (distinct_of_field? (Toml.distinct_parse? hparse) hr hu) hes
    · cases hes
      exact List.nodup_nil
  · cases h

end ConfigLayer

/-! ## 3. What one layer does -/

namespace Config

variable {c : Config} {l : ConfigLayer} {name : String} {env : String → Option String}

/-- What is known of a provider, mentioned or not. -/
def provider (c : Config) (name : String) : ProviderConfig := (c.providers.get? name).getD .default

theorem apiKey_eq (c : Config) (name : String) : c.apiKey name = (c.provider name).apiKey := by
  unfold apiKey provider
  cases c.providers.get? name <;> rfl

theorem apiUrl_eq (c : Config) (name : String) : c.apiUrl name = (c.provider name).apiUrl := by
  unfold apiUrl provider
  cases c.providers.get? name <;> rfl

theorem model_eq (c : Config) (name : String) : c.model name = (c.provider name).model := by
  unfold model provider
  cases c.providers.get? name <;> rfl

theorem isEnabled_eq (c : Config) (name : String) : c.isEnabled name = (c.provider name).enabled := by
  unfold isEnabled provider
  cases c.providers.get? name <;> rfl

/-- Whether anything is known of a provider. -/
def Has (c : Config) (name : String) : Prop := c.providers.contains name = true

theorem provider_updateProvider (c : Config) (n : String) (change : ProviderConfig → ProviderConfig) (name : String) :
    (c.updateProvider n change).provider name = if name = n then change (c.provider n) else c.provider name := by
  unfold provider updateProvider Keyed.update
  rw [Keyed.get?_insert]
  split <;> rfl

theorem has_updateProvider (c : Config) (n : String) (change : ProviderConfig → ProviderConfig) (name : String) :
    (c.updateProvider n change).Has name ↔ name = n ∨ c.Has name := by
  unfold Has updateProvider Keyed.update Keyed.contains
  rw [Keyed.get?_insert]
  by_cases hname : name = n <;> simp [hname]

/-- A configuration after what some entries say of providers. -/
def withEntries (c : Config) (es : List (String × ProviderLayer)) : Config :=
  es.foldl (fun c e => c.updateProvider e.1 (·.overlay e.2)) c

theorem provider_withEntries {es : List (String × ProviderLayer)} (h : (es.map Prod.fst).Nodup) (c : Config) :
    (c.withEntries es).provider name = (c.provider name).overlay ((es.lookup name).getD .silent) := by
  induction es generalizing c with
  | nil => rfl
  | cons e es ih =>
    obtain ⟨hfresh, h⟩ := List.nodup_cons.1 h
    have hstep := ih h (c.updateProvider e.1 (·.overlay e.2))
    rw [provider_updateProvider] at hstep
    refine hstep.trans ?_
    rw [lookup_cons_eq_ite]
    by_cases hname : name = e.1
    · rw [if_pos hname, if_pos hname, lookup_eq_none_of_notMem_keys (hname ▸ hfresh), hname]
      rfl
    · rw [if_neg hname, if_neg hname]

theorem has_withEntries (c : Config) (es : List (String × ProviderLayer)) :
    (c.withEntries es).Has name ↔ name ∈ es.map Prod.fst ∨ c.Has name := by
  induction es generalizing c with
  | nil => simp [withEntries]
  | cons e es ih =>
    refine (ih (c.updateProvider e.1 (·.overlay e.2))).trans ?_
    rw [has_updateProvider, List.map_cons, List.mem_cons, or_left_comm, or_assoc]

theorem generation_withEntries (c : Config) (es : List (String × ProviderLayer)) :
    (c.withEntries es).generation = c.generation := by
  induction es generalizing c with
  | nil => rfl
  | cons e es ih => exact ih (c.updateProvider e.1 (·.overlay e.2))

theorem overlay_eq (c : Config) (l : ConfigLayer) :
    c.overlay l = { c.withEntries l.providers with generation := c.generation.overlay l.generation } := by
  rw [← generation_withEntries c l.providers]
  rfl

theorem generation_overlay (c : Config) (l : ConfigLayer) :
    (c.overlay l).generation = c.generation.overlay l.generation := by
  rw [overlay_eq]

/-- A layer changes what is known of a provider by what it says of it. -/
theorem provider_overlay (h : (l.providers.map Prod.fst).Nodup) (c : Config) (name : String) :
    (c.overlay l).provider name = (c.provider name).overlay (l.about name) := by
  rw [overlay_eq]
  exact provider_withEntries h c

theorem has_overlay (c : Config) (l : ConfigLayer) (name : String) :
    (c.overlay l).Has name ↔ l.Mentions name ∨ c.Has name := by
  rw [overlay_eq]
  exact has_withEntries c l.providers

/-! ## 4. What the environment does -/

/-- The key for a provider in the environment: that of its own variable, if the provider can be asked. -/
def keySet (env : String → Option String) (name : String) : Option String :=
  if name ∈ availableProviders then env (keyVariable name) else none

/-- The model for a provider in the environment: only the provider that is selected has one. -/
def modelSet (env : String → Option String) (selected name : String) : Option String :=
  if name = selected then env modelVariable else none

/-- A configuration after a variable that changes a provider if it is set. -/
def afterVariable (c : Config) (n : String) (value : Option String)
    (change : String → ProviderConfig → ProviderConfig) : Config :=
  match value with
  | some v => c.updateProvider n (change v)
  | none => c

section Variables

variable {n : String} {value : Option String} {change : String → ProviderConfig → ProviderConfig}

theorem generation_afterVariable : (c.afterVariable n value change).generation = c.generation := by
  cases value <;> rfl

theorem provider_afterVariable :
    (c.afterVariable n value change).provider name =
      if name = n then value.elim (c.provider n) (change · (c.provider n)) else c.provider name := by
  cases value with
  | none =>
    by_cases hname : name = n
    · rw [if_pos hname, hname]
      rfl
    · rw [if_neg hname]
      rfl
  | some v => exact provider_updateProvider c n (change v) name

theorem has_afterVariable :
    (c.afterVariable n value change).Has name ↔ (name = n ∧ value.isSome = true) ∨ c.Has name := by
  cases value with
  | none => simp [afterVariable]
  | some v =>
    refine (has_updateProvider c n (change v) name).trans ?_
    simp

end Variables

/-- A configuration after the keys for some providers. -/
def withKeysOf (env : String → Option String) (c : Config) (names : List String) : Config :=
  names.foldl (fun c n => c.afterVariable n (env (keyVariable n)) fun key p => { p with apiKey := some key }) c

theorem withKeys_eq (env : String → Option String) (c : Config) :
    c.withKeys env = c.withKeysOf env availableProviders := rfl

theorem withEnvironment_eq (env : String → Option String) (c : Config) :
    c.withEnvironment env = (c.withKeys env).afterVariable (c.withKeys env).generation.provider (env modelVariable)
      fun model p => { p with model := some model } := rfl

theorem generation_withKeysOf (c : Config) (names : List String) :
    (c.withKeysOf env names).generation = c.generation := by
  induction names generalizing c with
  | nil => rfl
  | cons n names ih => exact (ih _).trans generation_afterVariable

theorem provider_withKeysOf (c : Config) (names : List String) :
    (c.withKeysOf env names).provider name =
      { c.provider name with
        apiKey := (if name ∈ names then env (keyVariable name) else none).or (c.provider name).apiKey } := by
  induction names generalizing c with
  | nil => rfl
  | cons n names ih =>
    refine (ih _).trans ?_
    rw [provider_afterVariable]
    by_cases hname : name = n
    · subst hname
      rw [if_pos rfl, if_pos List.mem_cons_self]
      -- a key that is set again is the same key
      by_cases hmem : name ∈ names
      · rw [if_pos hmem]
        cases env (keyVariable name) <;> rfl
      · rw [if_neg hmem]
        cases env (keyVariable name) <;> rfl
    · rw [if_neg hname]
      simp only [List.mem_cons, hname, false_or]

theorem has_withKeysOf (c : Config) (names : List String) :
    (c.withKeysOf env names).Has name ↔ (name ∈ names ∧ (env (keyVariable name)).isSome = true) ∨ c.Has name := by
  induction names generalizing c with
  | nil => simp [withKeysOf]
  | cons n names ih =>
    refine (ih _).trans ?_
    rw [has_afterVariable, ← or_assoc, List.mem_cons]
    refine or_congr_left ?_
    by_cases hname : name = n
    · subst hname
      simp
    · simp [hname]

theorem generation_withEnvironment (env : String → Option String) (c : Config) :
    (c.withEnvironment env).generation = c.generation := by
  rw [withEnvironment_eq, generation_afterVariable, withKeys_eq, generation_withKeysOf]

/-- The environment sets the key of a provider and the model of the selected one. -/
theorem provider_withEnvironment (env : String → Option String) (c : Config) (name : String) :
    (c.withEnvironment env).provider name =
      { c.provider name with
        apiKey := (keySet env name).or (c.provider name).apiKey
        model := (modelSet env c.generation.provider name).or (c.provider name).model } := by
  rw [withEnvironment_eq, provider_afterVariable, withKeys_eq, generation_withKeysOf, modelSet]
  by_cases hname : name = c.generation.provider
  · rw [if_pos hname, if_pos hname, ← hname, provider_withKeysOf]
    cases env modelVariable <;> rfl
  · rw [if_neg hname, if_neg hname, provider_withKeysOf]
    rfl

theorem has_withEnvironment (env : String → Option String) (c : Config) (name : String) :
    (c.withEnvironment env).Has name ↔
      c.Has name ∨ keySet env name ≠ none ∨ modelSet env c.generation.provider name ≠ none := by
  have hkey : keySet env name ≠ none ↔ name ∈ availableProviders ∧ (env (keyVariable name)).isSome = true := by
    rw [keySet, ne_eq, ite_eq_right_iff, Classical.not_imp, Option.isSome_iff_ne_none]
  have hmodel : modelSet env c.generation.provider name ≠ none ↔
      name = c.generation.provider ∧ (env modelVariable).isSome = true := by
    rw [modelSet, ne_eq, ite_eq_right_iff, Classical.not_imp, Option.isSome_iff_ne_none]
  rw [withEnvironment_eq, has_afterVariable, withKeys_eq, generation_withKeysOf, has_withKeysOf, hkey, hmodel]
  exact or_rotate.trans or_left_comm

/-! ## 5. All layers -/

/-- Each field of a configuration is what the environment sets it to, or else the last file that sets it, or else its
default. The environment sets keys and one model; a provider has an entry if a file mentions it or the environment sets
something for it. -/
structure IsResolved (layers : List ConfigLayer) (env : String → Option String) (c : Config) : Prop where
  apiKey : ∀ name, c.apiKey name = (keySet env name).or (lastSet (fun l => (l.about name).apiKey) layers)
  apiUrl : ∀ name, c.apiUrl name = lastSet (fun l => (l.about name).apiUrl) layers
  model : ∀ name, c.model name =
    (modelSet env c.generation.provider name).or (lastSet (fun l => (l.about name).model) layers)
  enabled : ∀ name, c.isEnabled name = (lastSet (fun l => (l.about name).enabled) layers).getD true
  entry : ∀ name, c.providers.contains name = true ↔
    (∃ l ∈ layers, l.Mentions name) ∨ keySet env name ≠ none ∨ modelSet env c.generation.provider name ≠ none
  provider : c.generation.provider = (lastSet (·.generation.provider) layers).getD "openai"
  maxAttempts : c.generation.maxAttempts = (lastSet (·.generation.maxAttempts) layers).getD 3
  dialect : c.generation.dialect = (lastSet (·.generation.dialect) layers).getD .postgres
  language : c.generation.language = (lastSet (·.generation.language) layers).getD .english
  refineRequests : c.generation.refineRequests = (lastSet (·.generation.refineRequests) layers).getD true
  temperature : c.generation.temperature = lastSet (·.generation.temperature) layers

/-- The configuration of some layers, before the environment. -/
def ofLayers (layers : List ConfigLayer) : Config := layers.foldl overlay default

section Layers

variable {layers : List ConfigLayer}

/-- A field of a provider that need not have a value. -/
theorem lastSet_ofLayers (h : ∀ l ∈ layers, (l.providers.map Prod.fst).Nodup) (read : ProviderConfig → Option String)
    {field : ProviderLayer → Option String} (hread : ∀ p l, read (p.overlay l) = (field l).or (read p))
    (hdefault : read .default = none) (name : String) :
    read ((ofLayers layers).provider name) = lastSet (fun l => field (l.about name)) layers := by
  have hstep : ∀ l ∈ layers, ∀ c : Config,
      read ((c.overlay l).provider name) = (field (l.about name)).or (read (c.provider name)) := by
    intro l hl c
    rw [provider_overlay (h l hl), hread]
  have hnone : read (default.provider name) = none := hdefault
  rw [ofLayers, foldl_or (fun c : Config => read (c.provider name)) hstep default, hnone, Option.or_none]

theorem enabled_ofLayers (h : ∀ l ∈ layers, (l.providers.map Prod.fst).Nodup) (name : String) :
    ((ofLayers layers).provider name).enabled = (lastSet (fun l => (l.about name).enabled) layers).getD true := by
  have hstep : ∀ l ∈ layers, ∀ c : Config,
      ((c.overlay l).provider name).enabled = (l.about name).enabled.getD (c.provider name).enabled := by
    intro l hl c
    rw [provider_overlay (h l hl)]
    rfl
  exact foldl_getD (fun c : Config => (c.provider name).enabled) hstep default

theorem has_ofLayers (name : String) : (ofLayers layers).Has name ↔ ∃ l ∈ layers, l.Mentions name := by
  have hfold (c : Config) : (layers.foldl overlay c).Has name ↔ (∃ l ∈ layers, l.Mentions name) ∨ c.Has name := by
    induction layers generalizing c with
    | nil => simp
    | cons l ls ih =>
      rw [List.foldl_cons, ih, has_overlay, ← or_assoc, or_comm (a := ∃ l ∈ ls, l.Mentions name)]
      simp only [List.mem_cons, exists_eq_or_imp]
  refine (hfold default).trans (or_iff_left ?_)
  exact Bool.false_ne_true

/-- A field of the generation settings that always has a value. -/
theorem getD_ofLayers {β : Type} (read : GenerationConfig → β) {field : GenerationLayer → Option β}
    (hread : ∀ g l, read (g.overlay l) = (field l).getD (read g)) (layers : List ConfigLayer) :
    read (ofLayers layers).generation = (lastSet (field ·.generation) layers).getD (read .default) := by
  have hstep : ∀ l ∈ layers, ∀ c : Config,
      read (c.overlay l).generation = (field l.generation).getD (read c.generation) := by
    intro l _ c
    rw [generation_overlay, hread]
  exact foldl_getD (fun c : Config => read c.generation) hstep default

theorem temperature_ofLayers (layers : List ConfigLayer) :
    (ofLayers layers).generation.temperature = lastSet (·.generation.temperature) layers := by
  have hstep : ∀ l ∈ layers, ∀ c : Config,
      (c.overlay l).generation.temperature = l.generation.temperature.or c.generation.temperature := by
    intro l _ c
    rw [generation_overlay]
    exact Option.orElse_eq_or
  exact (foldl_or (fun c : Config => c.generation.temperature) hstep default).trans Option.or_none

/-- What files and an environment come to is resolved field by field. -/
theorem isResolved_withEnvironment (h : ∀ l ∈ layers, (l.providers.map Prod.fst).Nodup)
    (env : String → Option String) : ((ofLayers layers).withEnvironment env).IsResolved layers env := by
  have hgeneration := generation_withEnvironment env (ofLayers layers)
  have hprovider := provider_withEnvironment env (ofLayers layers)
  exact {
    apiKey := fun name => by
      rw [apiKey_eq, hprovider, lastSet_ofLayers h ProviderConfig.apiKey (fun _ _ => Option.orElse_eq_or) rfl]
    apiUrl := fun name => by
      rw [apiUrl_eq, hprovider, lastSet_ofLayers h ProviderConfig.apiUrl (fun _ _ => Option.orElse_eq_or) rfl]
    model := fun name => by
      rw [model_eq, hprovider, hgeneration,
        lastSet_ofLayers h ProviderConfig.model (fun _ _ => Option.orElse_eq_or) rfl]
    enabled := fun name => by rw [isEnabled_eq, hprovider, enabled_ofLayers h]
    entry := fun name => by rw [hgeneration, ← has_ofLayers]; exact has_withEnvironment env _ name
    provider := by rw [hgeneration]; exact getD_ofLayers GenerationConfig.provider (fun _ _ => rfl) layers
    maxAttempts := by rw [hgeneration]; exact getD_ofLayers GenerationConfig.maxAttempts (fun _ _ => rfl) layers
    dialect := by rw [hgeneration]; exact getD_ofLayers GenerationConfig.dialect (fun _ _ => rfl) layers
    language := by rw [hgeneration]; exact getD_ofLayers GenerationConfig.language (fun _ _ => rfl) layers
    refineRequests := by rw [hgeneration]; exact getD_ofLayers GenerationConfig.refineRequests (fun _ _ => rfl) layers
    temperature := by rw [hgeneration]; exact temperature_ofLayers layers }

namespace IsResolved

variable {d : Config}

theorem generation_eq (hc : c.IsResolved layers env) (hd : d.IsResolved layers env) : c.generation = d.generation := by
  have hform (g : GenerationConfig) :
      g = ⟨g.provider, g.maxAttempts, g.dialect, g.language, g.refineRequests, g.temperature⟩ := rfl
  rw [hform c.generation, hform d.generation, hc.provider, hd.provider, hc.maxAttempts, hd.maxAttempts, hc.dialect,
    hd.dialect, hc.language, hd.language, hc.refineRequests, hd.refineRequests, hc.temperature, hd.temperature]

theorem provider_eq (hc : c.IsResolved layers env) (hd : d.IsResolved layers env) (name : String) :
    c.provider name = d.provider name := by
  have hform (p : ProviderConfig) : p = ⟨p.apiKey, p.apiUrl, p.model, p.enabled⟩ := rfl
  have hgeneration := generation_eq hc hd
  rw [hform (c.provider name), hform (d.provider name), ← apiKey_eq, ← apiKey_eq, ← apiUrl_eq, ← apiUrl_eq,
    ← model_eq, ← model_eq, ← isEnabled_eq, ← isEnabled_eq, hc.apiKey, hd.apiKey, hc.apiUrl, hd.apiUrl, hc.model,
    hd.model, hc.enabled, hd.enabled, hgeneration]

/-- There is one resolved configuration. -/
theorem unique (hc : c.IsResolved layers env) (hd : d.IsResolved layers env) : c = d := by
  have hgeneration := generation_eq hc hd
  have hproviders : c.providers = d.providers := by
    refine Keyed.ext_get? fun name => ?_
    have hentry : c.Has name ↔ d.Has name := by
      refine (hc.entry name).trans ?_
      rw [hgeneration]
      exact (hd.entry name).symm
    have hprovider : (c.providers.get? name).getD .default = (d.providers.get? name).getD .default :=
      provider_eq hc hd name
    unfold Has Keyed.contains at hentry
    cases hget : c.providers.get? name with
    | none =>
      rw [hget, Option.isSome_none, iff_comm] at hentry
      exact (Option.not_isSome_iff_eq_none.1 fun h => Bool.false_ne_true (hentry.1 h)).symm
    | some p =>
      rw [hget, Option.isSome_some] at hentry
      obtain ⟨q, hq⟩ := Option.isSome_iff_exists.1 (hentry.1 rfl)
      rw [hget, hq] at hprovider
      rw [hq, show p = q from hprovider]
  cases c
  cases d
  exact (Config.mk.injEq ..).mpr ⟨hproviders, hgeneration⟩

end IsResolved

end Layers

/-! ## 6. Loading -/

/-- The layers of some files. -/
def readFiles (files : List (String × String)) : Except Failure (List ConfigLayer) :=
  files.mapM fun file => ConfigLayer.ofFile file.1 file.2

/-- What is wrong with a configuration that allows no attempt. -/
def noAttempts : String := "generation.max_attempts must be at least 1"

theorem fault?_eq_noAttempts_iff : c.fault? = some noAttempts ↔ c.generation.maxAttempts = 0 := by
  by_cases h : c.generation.maxAttempts = 0
  · refine iff_of_true ?_ h
    rw [fault?, if_pos h]
    rfl
  · refine iff_of_false ?_ h
    rw [fault?, if_neg h]
    split
    · split
      · nofun
      · intro heq
        have hchar := congrArg (·.toList[11]?) (Option.some.inj heq)
        simp [noAttempts] at hchar
    · nofun

theorem checked_eq_ok_iff {d : Config} : c.checked = .ok d ↔ c.fault? = none ∧ c = d := by
  unfold checked
  cases c.fault? <;> simp

theorem checked_eq_error_iff {message : String} :
    c.checked = .error (.config message) ↔ c.fault? = some message := by
  unfold checked
  cases c.fault? <;> simp

section Loading

variable {files : List (String × String)} {layers : List ConfigLayer}

theorem nodup_of_readFiles (h : readFiles files = .ok layers) : ∀ l ∈ layers, (l.providers.map Prod.fst).Nodup := by
  have hall := mapM_eq_ok_iff.1 h
  clear h
  induction hall with
  | nil => exact List.forall_mem_nil _
  | cons hl _ ih => exact List.forall_mem_cons.2 ⟨ConfigLayer.nodup_providers hl, ih⟩

/-- A file that cannot be read is no configuration that allows no attempt. -/
theorem readFiles_ne_noAttempts : readFiles files ≠ .error (.config noAttempts) := by
  intro h
  obtain ⟨_, file, _, -, -, hfile⟩ := exists_of_mapM_eq_error h
  unfold ConfigLayer.ofFile at hfile
  split at hfile
  · cases hfile
  · have hchar := congrArg (·.toList[0]?) (Failure.config.inj (Except.error.inj hfile))
    simp [noAttempts] at hchar

/-- A configuration after a file, if it can be read. -/
def overlayFile (c : Config) (file : String × String) : Except Failure Config :=
  return c.overlay (← ConfigLayer.ofFile file.1 file.2)

theorem foldlM_overlayFile (files : List (String × String)) (c : Config) :
    files.foldlM overlayFile c = readFiles files >>= fun layers => .ok (layers.foldl overlay c) := by
  induction files generalizing c with
  | nil => rfl
  | cons file files ih =>
    rw [List.foldlM_cons, overlayFile, readFiles, List.mapM_cons]
    cases ConfigLayer.ofFile file.1 file.2 with
    | error f => rfl
    | ok l =>
      refine (ih (c.overlay l)).trans ?_
      rw [readFiles]
      cases files.mapM fun file => ConfigLayer.ofFile file.1 file.2 <;> rfl

/-- Files are read one by one, which is the same as to read all of them first. -/
theorem load_eq (files : List (String × String)) (env : String → Option String) :
    load files env = readFiles files >>= fun layers => ((ofLayers layers).withEnvironment env).checked := by
  have hload : load files env = files.foldlM overlayFile default >>= fun c => (c.withEnvironment env).checked := rfl
  rw [hload, foldlM_overlayFile]
  cases readFiles files <;> rfl

/-- Files and an environment are loaded just when the files can be read and nothing is wrong with the configuration
that resolves them, and then that is the configuration. A bound on attempts of zero counts only if no later file sets
another one. -/
theorem load_resolves (files : List (String × String)) (env : String → Option String) :
    (∀ c, load files env = .ok c ↔
      ∃ layers, readFiles files = .ok layers ∧ c.IsResolved layers env ∧ c.fault? = none) ∧
    (load files env = .error (.config noAttempts) ↔
      ∃ layers, readFiles files = .ok layers ∧ lastSet (·.generation.maxAttempts) layers = some 0) := by
  rw [load_eq]
  cases hread : readFiles files with
  | error f =>
    refine ⟨fun c => iff_of_false nofun nofun, iff_of_false (fun h => ?_) nofun⟩
    cases h
    exact readFiles_ne_noAttempts hread
  | ok layers =>
    have hresolved := isResolved_withEnvironment (nodup_of_readFiles hread) env
    refine ⟨fun c => ⟨fun h => ?_, ?_⟩, ?_⟩
    · obtain ⟨hfault, rfl⟩ := checked_eq_ok_iff.1 h
      exact ⟨layers, rfl, hresolved, hfault⟩
    · rintro ⟨_, ⟨⟩, hc, hfault⟩
      obtain rfl := IsResolved.unique hresolved hc
      exact checked_eq_ok_iff.2 ⟨hfault, rfl⟩
    · refine (checked_eq_error_iff.trans fault?_eq_noAttempts_iff).trans ?_
      rw [hresolved.maxAttempts]
      constructor
      · intro hzero
        refine ⟨layers, rfl, ?_⟩
        cases hlast : lastSet (·.generation.maxAttempts) layers with
        | none =>
          rw [hlast] at hzero
          cases hzero
        | some n =>
          rw [hlast] at hzero
          exact congrArg some hzero
      · rintro ⟨_, ⟨⟩, hlast⟩
        rw [hlast]
        rfl

-- a later file lifts a bound of zero and selects the provider that the model of the environment goes to
example :
    let general := ("~/.sqlgen/config.toml", "[generation]\nmax_attempts = 0\n[providers.mock]\nmodel = \"a\"")
    let project := (".sqlgen/config.toml", "[generation]\nprovider = \"mock\"\nmax_attempts = 5")
    let env := fun name => if name = "SQLGEN_MODEL" then some "b" else none
    (load [general, project] env).toOption.map
      (fun c => (c.generation.maxAttempts, c.model "mock", c.model "openai")) = some (5, some "b", none) := by
  decide +kernel

end Loading

end Config

end QueryDrill
