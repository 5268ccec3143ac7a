import BuildFleet.Operator.Templates
import BuildFleet.Proofs.Operator.Conformance
import BuildFleet.Proofs.Operator.Phases
import Mathlib.Logic.Function.Basic

/-!
# What a template publishes

A cycle of a template makes one call for each kind of artifact, in order: it applies the ConfigMap
that the template yields, or deletes the one that it does not yield (`Template.publication`). Then
it writes the status. A template that breaks a rule only gets its status written.

> `Template.reconcile_ok`: what is said in a cycle that succeeds.

What this leaves of the ConfigMaps that there are follows from where the calls are about. The name
of an artifact tells its kind and the name of its template (`ArtifactKind.artifactName_inj`), so no
template touches what belongs to another one, and each settles what belongs to itself:

> `Template.reconcile_publishes`: what a cycle that succeeds leaves, whatever there was before,
> whatever earlier cycles of the template left undone, and in whatever order templates are run.
-/

namespace BuildFleet

open Program (Makes)

/-! ## Names -/

/-- A name with a suffix behind it determines both. -/
theorem ArtifactKind.suffix_inj {kind kind' : ArtifactKind} {n n' : List Char}
    (h : n ++ '-' :: kind.suffix.toList = n' ++ '-' :: kind'.suffix.toList) :
    kind = kind' ∧ n = n' := by
  -- the last letter tells the kind, and then the names are what is left
  have hlast := congrArg List.getLast? h
  cases kind <;> cases kind' <;> simp [suffix] at h hlast ⊢
  · exact h
  · exact h

/-- The name of an artifact tells its kind and its template. -/
theorem ArtifactKind.artifactName_inj {kind kind' : ArtifactKind} {n n' : String}
    (h : kind.artifactName n = kind'.artifactName n') : kind = kind' ∧ n = n' := by
  have htexts := congrArg String.toList h
  simp only [artifactName, String.toList_append, List.append_assoc,
    List.append_cancel_left_eq] at htexts
  obtain ⟨hkind, hname⟩ := suffix_inj (by simpa using htexts)
  exact ⟨hkind, String.toList_inj.mp hname⟩

/-- An artifact is one file under the name of its kind. -/
theorem Artifact.exists_make {t : Template} {kind : ArtifactKind} {a : Artifact}
    (h : derive? t kind = some a) : ∃ contents, a = make t kind contents := by
  unfold derive? at h
  split at h
  · split at h
    · simp at h
    · exact ⟨_, (Option.some.inj h).symm⟩
  · split at h
    · exact ⟨_, (Option.some.inj h).symm⟩
    · simp at h

/-! ## The calls of a cycle -/

namespace Template

variable (t : Template) (ns : String) (kind : ArtifactKind)

/-- Where the artifact of a kind is published. -/
def artifactKey : ObjectKey := ⟨ns, kind.artifactName t.name⟩

/-- The ConfigMap of a kind that the template yields once its defaults are filled in. -/
def artifact? : Option ConfigMap :=
  (Artifact.derive? t.withDefaults kind).map fun a => a.toConfigMap t.owner

/-- The reference to the artifact of a kind, if there is one. -/
def artifactRef? : Option ManagedRef :=
  (Artifact.derive? t.withDefaults kind).map fun a => ⟨.configMap, ns, a.name⟩

/-- How the artifact of a kind is published or deleted. -/
def publication : Exchange :=
  match t.artifact? kind with
  | some c => ⟨.applyConfigMap c, .ok ()⟩
  | none => ⟨.deleteConfigMap ns (kind.artifactName t.name), .ok ()⟩

/-- The status after a cycle. -/
def nextStatus (now : Instant) : TemplateStatus :=
  match t.withDefaults.check.result with
  | .error e => (t.status.getD {}).next t.metadata.generation none (readiness (some e) now)
  | .ok _ => (t.status.getD {}).next t.metadata.generation
    (some (ArtifactKind.all.filterMap (t.artifactRef? ns))) (readiness none now)

variable {t ns kind}

/-- An artifact is published under its name, in the namespace of the template. -/
theorem artifact?_eq_some (hns : t.ns = some ns) {c : ConfigMap} (h : t.artifact? kind = some c) :
    (⟨c.ns, c.name⟩ : ObjectKey) = t.artifactKey ns kind := by
  obtain ⟨a, ha, rfl⟩ := Option.map_eq_some_iff.mp h
  obtain ⟨contents, rfl⟩ := Artifact.exists_make ha
  have hns' : t.withDefaults.ns = some ns := hns
  show ObjectKey.mk (t.withDefaults.ns.getD "") (kind.artifactName t.withDefaults.name) = _
  rw [hns']
  rfl

/-- What publishing an artifact makes of the ConfigMaps. -/
theorem onConfigMaps_publication (hns : t.ns = some ns) (maps : ConfigMaps) :
    (t.publication ns kind).call.onConfigMaps maps
      = Function.update maps (t.artifactKey ns kind) (t.artifact? kind) := by
  unfold publication
  cases hartifact : t.artifact? kind with
  | none => rfl
  | some c =>
    rw [← artifact?_eq_some hns hartifact]
    rfl

/-- A publication is always answered. -/
theorem publication_reply : ∃ r, (t.publication ns kind).reply = .ok r := by
  unfold publication
  split
  · exact ⟨(), rfl⟩
  · exact ⟨(), rfl⟩

end Template

section

variable {σ : Type} {server : Server σ} {t : Template} {ns : String} {now : Instant} {s : σ}

/-- An artifact that is published is referred to, and makes just that exchange. -/
theorem publishArtifact_ok {kind : ArtifactKind} {r : Option ManagedRef}
    (hok : ((publishArtifact ns t.name t.owner t.withDefaults kind).run server s).result = .ok r) :
    r = t.artifactRef? ns kind
      ∧ (publishArtifact ns t.name t.owner t.withDefaults kind).exchanges server s
        = [t.publication ns kind] := by
  unfold publishArtifact Template.publication Template.artifactRef? Template.artifact? at *
  cases hderive : Artifact.derive? t.withDefaults kind with
  | none =>
    rw [hderive] at hok
    obtain ⟨reply, hmodify, hpure, -⟩ := Program.bind_ok hok
    simp only [Option.map_none]
    rw [Program.exchanges_bind_of_ok hmodify, (Program.modify_ok hmodify).2.1]
    exact ⟨(Except.ok.inj hpure).symm, rfl⟩
  | some a =>
    rw [hderive] at hok
    obtain ⟨reply, hmodify, hpure, -⟩ := Program.bind_ok hok
    simp only [Option.map_some]
    rw [Program.exchanges_bind_of_ok hmodify, (Program.modify_ok hmodify).2.1]
    exact ⟨(Except.ok.inj hpure).symm, rfl⟩

/-- Artifacts that are published are referred to in order, and make one exchange each. -/
theorem publishArtifacts_ok : ∀ (kinds : List ArtifactKind) {refs : List ManagedRef} {s : σ},
    ((publishArtifacts ns t.name t.owner t.withDefaults kinds).run server s).result = .ok refs →
      refs = kinds.filterMap (t.artifactRef? ns)
        ∧ (publishArtifacts ns t.name t.owner t.withDefaults kinds).exchanges server s
          = kinds.map (t.publication ns)
  | [], refs, s, hok => ⟨(Except.ok.inj hok).symm, rfl⟩
  | kind :: kinds, refs, s, hok => by
    obtain ⟨r, hfirst, hok, -⟩ := Program.bind_ok hok
    obtain ⟨rest, hrest, hpure, -⟩ := Program.bind_ok hok
    obtain ⟨rfl, hlog⟩ := publishArtifact_ok hfirst
    obtain ⟨rfl, hlogs⟩ := publishArtifacts_ok kinds hrest
    have hrefs : refs = (t.artifactRef? ns kind).toList ++ kinds.filterMap (t.artifactRef? ns) :=
      (Except.ok.inj hpure).symm
    refine ⟨?_, ?_⟩
    · rw [hrefs, List.filterMap_cons]
      cases t.artifactRef? ns kind <;> rfl
    · rw [publishArtifacts, Program.exchanges_bind_of_ok hfirst, Program.exchanges_bind_of_ok hrest,
        hlog, hlogs]
      show [t.publication ns kind] ++ (kinds.map (t.publication ns) ++ []) = _
      rw [List.append_nil, List.map_cons, List.singleton_append]

/-- A cycle of a valid template publishes, and then writes the status. -/
theorem Template.reconcile_of_valid (hns : t.ns = some ns)
    (hvalid : t.withDefaults.check.isValid = true) (now : Instant) :
    t.reconcile now = (do
      let refs ← publishArtifacts ns t.name t.owner t.withDefaults ArtifactKind.all
      Program.modify (.patchTemplateStatus ns t.name ((t.status.getD {}).next
        t.metadata.generation (some refs) (readiness none now)))
      return .awaitChange) := by
  have hresult : t.withDefaults.check.result = .ok t.withDefaults.check.warnings := if_pos hvalid
  unfold Template.reconcile
  rw [hns, hresult]
  rfl

/-- A cycle of an invalid template only writes the status. -/
theorem Template.reconcile_of_invalid (hns : t.ns = some ns)
    (hinvalid : ¬ t.withDefaults.check.isValid = true) (now : Instant) :
    t.reconcile now = (do
      Program.modify (.patchTemplateStatus ns t.name ((t.status.getD {}).next
        t.metadata.generation none
        (readiness (some (.validation t.withDefaults.check.summary)) now)))
      return .awaitChange) := by
  have hresult : t.withDefaults.check.result
      = .error (.validation t.withDefaults.check.summary) := if_neg hinvalid
  unfold Template.reconcile
  rw [hns, hresult]
  rfl

/-- A template that is reconciled has a namespace. -/
theorem Template.exists_ns_of_ok {action : Action}
    (hok : ((t.reconcile now).run server s).result = .ok action) : ∃ ns, t.ns = some ns := by
  cases hns : t.ns with
  | none =>
    unfold Template.reconcile at hok
    rw [hns] at hok
    exact nomatch hok
  | some ns => exact ⟨ns, rfl⟩

/-- What is said in a cycle that succeeds. -/
theorem Template.reconcile_ok (hns : t.ns = some ns) {action : Action}
    (hok : ((t.reconcile now).run server s).result = .ok action) :
    (t.reconcile now).exchanges server s
      = (if t.withDefaults.check.isValid then ArtifactKind.all.map (t.publication ns) else [])
        ++ [⟨.patchTemplateStatus ns t.name (t.nextStatus ns now), .ok ()⟩] := by
  unfold Template.nextStatus Report.result
  by_cases hvalid : t.withDefaults.check.isValid = true
  · rw [if_pos hvalid, if_pos hvalid]
    rw [Template.reconcile_of_valid hns hvalid] at hok ⊢
    obtain ⟨refs, hpublish, hok, -⟩ := Program.bind_ok hok
    obtain ⟨reply, hpatch, -, -⟩ := Program.bind_ok hok
    obtain ⟨rfl, hlog⟩ := publishArtifacts_ok _ hpublish
    rw [Program.exchanges_bind_of_ok hpublish, Program.exchanges_bind_of_ok hpatch, hlog,
      (Program.modify_ok hpatch).2.1]
    rfl
  · rw [if_neg hvalid, if_neg hvalid]
    rw [Template.reconcile_of_invalid hns hvalid] at hok ⊢
    obtain ⟨reply, hpatch, -, -⟩ := Program.bind_ok hok
    rw [Program.exchanges_bind_of_ok hpatch, (Program.modify_ok hpatch).2.1]
    rfl

end

/-! ## What a cycle leaves alone -/

section

variable {σ : Type} {server : Server σ} {maps : σ → ConfigMaps} {t : Template} {ns : String}
  {key : ObjectKey}

/-- What no call of a program touches is there afterwards, however the program ends. -/
theorem StoresConfigMaps.run_spared (hs : StoresConfigMaps server maps) {α : Type} {p : Program α}
    (hp : p.Makes (Call.Spares key)) (s : σ) : maps (p.run server s).state key = maps s key := by
  have hkept : ∀ c s', c.Spares key → maps s' key = maps s key →
      maps (server.answer c s').2 key = maps s key := fun c s' hc hs' => (hs.spared hc s').trans hs'
  exact p.run_keeps (I := fun s' => maps s' key = maps s key) hkept s (hp.exchanges server s) rfl

/-- Publishing spares all ConfigMaps but the template's own. -/
theorem Template.spares_publication (hns : t.ns = some ns) {kind : ArtifactKind}
    (hkey : key ≠ t.artifactKey ns kind) : (t.publication ns kind).call.Spares key := by
  intro maps
  rw [Template.onConfigMaps_publication hns, Function.update_of_ne hkey]

/-- Publishing all artifacts spares all ConfigMaps but the template's own. -/
theorem makes_publishArtifacts (hns : t.ns = some ns) (hkey : ∀ kind, key ≠ t.artifactKey ns kind) :
    ∀ kinds : List ArtifactKind,
      (publishArtifacts ns t.name t.owner t.withDefaults kinds).Makes (Call.Spares key)
  | [] => trivial
  | kind :: kinds => by
    have hcall := Template.spares_publication hns (hkey kind)
    have hfirst : (publishArtifact ns t.name t.owner t.withDefaults kind).Makes
        (Call.Spares key) := by
      unfold Template.publication Template.artifact? at hcall
      unfold publishArtifact
      cases hderive : Artifact.derive? t.withDefaults kind with
      | none =>
        rw [hderive] at hcall
        exact Makes.bind (fun _ => Program.makes_pure _) (Program.makes_modify hcall)
      | some a =>
        rw [hderive] at hcall
        exact Makes.bind (fun _ => Program.makes_pure _) (Program.makes_modify hcall)
    refine Makes.bind ?_ hfirst
    intro r
    refine Makes.bind ?_ (makes_publishArtifacts hns hkey kinds)
    intro refs
    trivial

/-- A cycle touches nothing but the artifacts of its template, and not even these if the template is
invalid. -/
theorem Template.makes_reconcile (hns : t.ns = some ns) (now : Instant)
    (hkey : t.withDefaults.check.isValid = true → ∀ kind, key ≠ t.artifactKey ns kind) :
    (t.reconcile now).Makes (Call.Spares key) := by
  have hpatch : ∀ st, (Program.modify (.patchTemplateStatus ns t.name st)).Makes
      (Call.Spares key) := fun st => Program.makes_modify fun _ => rfl
  by_cases hvalid : t.withDefaults.check.isValid = true
  · rw [Template.reconcile_of_valid hns hvalid]
    refine Makes.bind ?_ (makes_publishArtifacts hns (hkey hvalid) _)
    intro refs
    exact Makes.bind (fun _ => Program.makes_pure _) (hpatch _)
  · rw [Template.reconcile_of_invalid hns hvalid]
    exact Makes.bind (fun _ => Program.makes_pure _) (hpatch _)

end

/-! ## What a cycle settles -/

namespace Template

variable (t : Template) (ns : String)

/-- The ConfigMaps once the artifacts of some kinds are as the template has them. -/
def settle (kinds : List ArtifactKind) (maps : ConfigMaps) : ConfigMaps :=
  kinds.foldl (fun m kind => Function.update m (t.artifactKey ns kind) (t.artifact? kind)) maps

/-- The ConfigMaps after a cycle of the template that succeeds. -/
def publish (maps : ConfigMaps) : ConfigMaps :=
  if t.withDefaults.check.isValid then t.settle ns ArtifactKind.all maps else maps

variable {t ns}

/-- The artifacts of a template have different names. -/
theorem artifactKey_inj {kind kind' : ArtifactKind}
    (h : t.artifactKey ns kind = t.artifactKey ns kind') : kind = kind' :=
  (ArtifactKind.artifactName_inj (congrArg ObjectKey.name h)).1

/-- Templates that differ in namespace or name publish nothing in one place. -/
theorem artifactKey_ne {t' : Template} {ns' : String} (h : ns' ≠ ns ∨ t'.name ≠ t.name)
    (kind kind' : ArtifactKind) : t'.artifactKey ns' kind' ≠ t.artifactKey ns kind := by
  intro heq
  rcases h with h | h
  · exact h (congrArg ObjectKey.ns heq)
  · exact h (ArtifactKind.artifactName_inj (congrArg ObjectKey.name heq)).2

/-- Artifacts of the kinds are settled. By induction on the kinds; a later one is published in
another place. -/
theorem settle_artifactKey (kind : ArtifactKind) : ∀ (kinds : List ArtifactKind)
    (maps : ConfigMaps), t.settle ns kinds maps (t.artifactKey ns kind)
      = if kind ∈ kinds then t.artifact? kind else maps (t.artifactKey ns kind)
  | [], _ => rfl
  | k :: kinds, maps => by
    show t.settle ns kinds (Function.update maps (t.artifactKey ns k) (t.artifact? k))
      (t.artifactKey ns kind) = _
    rw [settle_artifactKey kind kinds, Function.update_apply]
    by_cases hk : kind = k
    · subst hk
      simp
    · have hkey : t.artifactKey ns kind ≠ t.artifactKey ns k := fun h => hk (artifactKey_inj h)
      simp [hk, hkey]

/-- All other ConfigMaps stay as they are. -/
theorem settle_of_ne {key : ObjectKey} (h : ∀ kind, key ≠ t.artifactKey ns kind) :
    ∀ (kinds : List ArtifactKind) (maps : ConfigMaps), t.settle ns kinds maps key = maps key
  | [], _ => rfl
  | k :: kinds, maps => by
    show t.settle ns kinds (Function.update maps (t.artifactKey ns k) (t.artifact? k)) key = _
    rw [settle_of_ne h kinds, Function.update_of_ne (h k)]

/-- Under the name of an artifact there is afterwards what the template derives for it. -/
theorem publish_artifactKey (hvalid : t.withDefaults.check.isValid = true) (maps : ConfigMaps)
    (kind : ArtifactKind) : t.publish ns maps (t.artifactKey ns kind) = t.artifact? kind := by
  have hmem : kind ∈ ArtifactKind.all := by cases kind <;> decide
  unfold publish
  rw [if_pos hvalid, settle_artifactKey, if_pos hmem]

/-- Under all other names there is what was there. -/
theorem publish_of_ne {key : ObjectKey} (h : ∀ kind, key ≠ t.artifactKey ns kind)
    (maps : ConfigMaps) : t.publish ns maps key = maps key := by
  unfold publish
  split
  · exact settle_of_ne h _ maps
  · rfl

/-- What is there under a key afterwards only depends on what was there under that key. -/
theorem publish_apply_congr {m m' : ConfigMaps} {key : ObjectKey} (h : m key = m' key) :
    t.publish ns m key = t.publish ns m' key := by
  by_cases hkey : ∃ kind, key = t.artifactKey ns kind
  · obtain ⟨kind, rfl⟩ := hkey
    by_cases hvalid : t.withDefaults.check.isValid = true
    · rw [publish_artifactKey hvalid, publish_artifactKey hvalid]
    · unfold publish
      rw [if_neg hvalid, if_neg hvalid, h]
  · have hne : ∀ kind, key ≠ t.artifactKey ns kind := fun kind heq => hkey ⟨kind, heq⟩
    rw [publish_of_ne hne, publish_of_ne hne, h]

/-- What a valid template publishes does not depend on what was there before. -/
theorem publish_congr {m m' : ConfigMaps}
    (h : ∀ key, (t.withDefaults.check.isValid = true → ∀ kind, key ≠ t.artifactKey ns kind) →
      m key = m' key) : t.publish ns m = t.publish ns m' := by
  funext key
  by_cases hkey : t.withDefaults.check.isValid = true ∧ ∃ kind, key = t.artifactKey ns kind
  · obtain ⟨hvalid, kind, rfl⟩ := hkey
    rw [publish_artifactKey hvalid, publish_artifactKey hvalid]
  · exact publish_apply_congr (h key fun hvalid kind heq => hkey ⟨hvalid, kind, heq⟩)

/-- It does not matter in which order templates are run that publish in different places. -/
theorem publish_comm {t' : Template} {ns' : String} (h : ns' ≠ ns ∨ t'.name ≠ t.name)
    (maps : ConfigMaps) :
    t'.publish ns' (t.publish ns maps) = t.publish ns (t'.publish ns' maps) := by
  funext key
  by_cases hkey : ∃ kind, key = t.artifactKey ns kind
  · obtain ⟨kind, rfl⟩ := hkey
    have hother : ∀ kind', t.artifactKey ns kind ≠ t'.artifactKey ns' kind' :=
      fun kind' => (artifactKey_ne h kind kind').symm
    rw [publish_of_ne hother]
    exact publish_apply_congr (publish_of_ne hother maps).symm
  · have hne : ∀ kind, key ≠ t.artifactKey ns kind := fun kind heq => hkey ⟨kind, heq⟩
    rw [publish_of_ne hne (t'.publish ns' maps)]
    exact publish_apply_congr (publish_of_ne hne maps)

end Template

/-! ## Runs -/

section

variable {σ : Type} {server : Server σ} {maps : σ → ConfigMaps} {t : Template} {ns : String}
  {now : Instant} {s s' : σ}

/-- A cycle of the template succeeds. -/
structure Template.Succeeds (server : Server σ) (t : Template) (now : Instant) (s s' : σ) :
    Prop where
  result : ∃ action, ((t.reconcile now).run server s).result = .ok action
  state : ((t.reconcile now).run server s).state = s'

/-- A cycle that ends well has succeeded. -/
theorem Template.succeeds_of_isOk (h : ((t.reconcile now).run server s).result.isOk = true) :
    t.Succeeds server now s ((t.reconcile now).run server s).state := by
  cases hresult : ((t.reconcile now).run server s).result with
  | ok action => exact ⟨⟨action, hresult⟩, rfl⟩
  | error e =>
    rw [hresult] at h
    exact nomatch h

/-- A successful cycle leaves what the template publishes. -/
theorem Template.Succeeds.maps_eq (hs : StoresConfigMaps server maps) (hns : t.ns = some ns)
    (h : t.Succeeds server now s s') : maps s' = t.publish ns (maps s) := by
  obtain ⟨⟨action, hok⟩, rfl⟩ := h
  have hlog := Template.reconcile_ok hns hok
  have hanswered : ∀ x ∈ (t.reconcile now).exchanges server s, ∃ r, x.reply = .ok r := by
    intro x hx
    rw [hlog] at hx
    rcases List.mem_append.mp hx with hx | hx
    · split at hx
      · obtain ⟨kind, -, rfl⟩ := List.mem_map.mp hx
        exact Template.publication_reply
      · exact absurd hx List.not_mem_nil
    · rw [List.mem_singleton.mp hx]
      exact ⟨(), rfl⟩
  rw [Program.run_folds hs.done _ _ hanswered, hlog, List.foldl_append]
  unfold Template.publish
  split
  · rw [List.foldl_map]
    simp only [Template.onConfigMaps_publication hns]
    rfl
  · rfl

/-- Cycles of versions of a template, one after the other, each with whatever result. -/
inductive Template.Attempted (server : Server σ) (version : Template → Prop) : σ → σ → Prop where
  /-- None so far. -/
  | none (s : σ) : Attempted server version s s
  /-- One more, before the others. -/
  | cycle {v : Template} {s s' : σ} (now : Instant) (isVersion : version v)
      (rest : Attempted server version ((v.reconcile now).run server s).state s') :
      Attempted server version s s'

/-- The same template at another time: it has its place, and its specification if the template is
invalid. -/
structure Template.IsVersion (t v : Template) : Prop where
  ns : v.ns = t.ns
  name : v.name = t.name
  spec : t.withDefaults.check.isValid = false → v.spec = t.spec

/-- Versions of a template touch nothing that the template does not publish. -/
theorem Template.IsVersion.makes_reconcile {v : Template} (hv : t.IsVersion v) (hns : t.ns = some ns)
    {key : ObjectKey}
    (hkey : t.withDefaults.check.isValid = true → ∀ kind, key ≠ t.artifactKey ns kind)
    (now : Instant) : (v.reconcile now).Makes (Call.Spares key) := by
  refine Template.makes_reconcile (hv.ns.trans hns) now ?_
  intro hvalid kind
  have hplace : v.artifactKey ns kind = t.artifactKey ns kind := by
    unfold Template.artifactKey
    rw [hv.name]
  rw [hplace]
  cases ht : t.withDefaults.check.isValid with
  | true => exact hkey ht kind
  | false =>
    -- the check is about name and specification, so both are invalid
    have hsame : v.withDefaults.check = t.withDefaults.check := by
      have hname : v.withDefaults.name = t.withDefaults.name := hv.name
      have hspec : v.withDefaults.spec = t.withDefaults.spec :=
        congrArg TemplateSpec.withDefaults (hv.spec ht)
      unfold Template.check
      rw [hname, hspec]
    exact absurd (hsame ▸ hvalid) (ht ▸ Bool.false_ne_true)

/-- A cycle that was attempted leaves ConfigMaps alone that are not the template's. -/
theorem Template.Attempted.maps_eq (hs : StoresConfigMaps server maps) (hns : t.ns = some ns)
    {key : ObjectKey}
    (hkey : t.withDefaults.check.isValid = true → ∀ kind, key ≠ t.artifactKey ns kind)
    (h : Template.Attempted server t.IsVersion s s') : maps s' key = maps s key := by
  induction h with
  | none s => rfl
  | cycle now isVersion rest ih =>
    rw [ih]
    exact hs.run_spared (isVersion.makes_reconcile hns hkey now) _

/-- What a cycle of a valid template leaves: of each kind there is exactly what the template yields,
and all else is as it was. -/
structure Template.Published (t : Template) (ns : String) (before after : ConfigMaps) : Prop where
  own : ∀ kind : ArtifactKind, after ⟨ns, kind.artifactName t.name⟩
    = (Artifact.derive? t.withDefaults kind).map fun a => a.toConfigMap t.owner
  others : ∀ key : ObjectKey, (∀ kind : ArtifactKind, key ≠ ⟨ns, kind.artifactName t.name⟩) →
    after key = before key

/-- Cycles of templates settle what belongs to their template and leave all else alone. -/
theorem Template.reconcile_publishes (hs : StoresConfigMaps server maps) (hns : t.ns = some ns) :
    -- a valid template is published, and its status lists what there is
    (t.withDefaults.check.isValid = true → ∀ now s s', t.Succeeds server now s s' →
      t.Published ns (maps s) (maps s')
      ∧ ∃ st, (t.reconcile now).exchanges server s = ArtifactKind.all.map (t.publication ns)
            ++ [⟨.patchTemplateStatus ns t.name st, .ok ()⟩]
          ∧ st.refs = ArtifactKind.all.filterMap fun kind =>
            (Artifact.derive? t.withDefaults kind).map fun a => ⟨.configMap, ns, a.name⟩)
    -- nothing is published for an invalid one, and its status lists what it did before
    ∧ (t.withDefaults.check.isValid = false → ∀ now s,
      maps ((t.reconcile now).run server s).state = maps s
      ∧ ∀ s', t.Succeeds server now s s' → ∃ st,
        (t.reconcile now).exchanges server s = [⟨.patchTemplateStatus ns t.name st, .ok ()⟩]
          ∧ st.refs = (t.status.getD {}).refs)
    -- cycles of the template that came before, whatever became of them, make no difference
    ∧ (∀ s s₀, Template.Attempted server t.IsVersion s s₀ → ∀ now now₀ s' s₀',
      t.Succeeds server now s s' → t.Succeeds server now₀ s₀ s₀' → maps s₀' = maps s')
    -- nor does the order in which different templates are run
    ∧ ∀ t' : Template, t'.ns ≠ t.ns ∨ t'.name ≠ t.name → ∀ s now₁ s₁ now₂ s₂ now₁' s₁' now₂' s₂',
      t.Succeeds server now₁ s s₁ → t'.Succeeds server now₂ s₁ s₂ →
      t'.Succeeds server now₁' s s₁' → t.Succeeds server now₂' s₁' s₂' → maps s₂' = maps s₂ := by
  refine ⟨?_, ?_, ?_, ?_⟩
  · intro hvalid now s s' h
    have hmaps := h.maps_eq hs hns
    obtain ⟨⟨action, hok⟩, -⟩ := h
    have hlog := Template.reconcile_ok hns hok
    rw [if_pos hvalid] at hlog
    refine ⟨⟨?_, ?_⟩, t.nextStatus ns now, hlog, ?_⟩
    · intro kind
      rw [hmaps]
      exact publish_artifactKey hvalid (maps s) kind
    · intro key hkey
      rw [hmaps]
      exact publish_of_ne hkey (maps s)
    · unfold Template.nextStatus Report.result
      rw [if_pos hvalid]
      rfl
  · intro hinvalid now s
    refine ⟨?_, ?_⟩
    · funext key
      refine hs.run_spared (Template.makes_reconcile hns now ?_) s
      intro hvalid
      exact absurd hvalid (hinvalid ▸ Bool.false_ne_true)
    · intro s' h
      obtain ⟨⟨action, hok⟩, -⟩ := h
      have hlog := Template.reconcile_ok hns hok
      rw [if_neg (hinvalid ▸ Bool.false_ne_true)] at hlog
      refine ⟨t.nextStatus ns now, hlog, ?_⟩
      unfold Template.nextStatus Report.result
      rw [if_neg (hinvalid ▸ Bool.false_ne_true)]
      rfl
  · intro s s₀ hbefore now now₀ s' s₀' h h₀
    rw [h.maps_eq hs hns, h₀.maps_eq hs hns]
    exact publish_congr fun key hkey => hbefore.maps_eq hs hns hkey
  · intro t' hne s now₁ s₁ now₂ s₂ now₁' s₁' now₂' s₂' h₁ h₂ h₁' h₂'
    obtain ⟨action, hok⟩ := h₂.result
    obtain ⟨ns', hns'⟩ := Template.exists_ns_of_ok hok
    have hplaces : ns' ≠ ns ∨ t'.name ≠ t.name := by simpa [hns, hns'] using hne
    rw [h₂'.maps_eq hs hns, h₁'.maps_eq hs hns', h₂.maps_eq hs hns', h₁.maps_eq hs hns]
    exact (publish_comm hplaces _).symm

end

/-- A template with a text for the configuration of its daemon, with or without scripts. -/
def sampleTemplate (name toml : String) (scripts : Bool) : Template where
  metadata := { name := some name, ns := some "ci", uid := some "uid-5678" }
  spec := { buildkitdToml := toml, lifecycle := { preStopScript := scripts } }

/-- A cluster with the ConfigMap of another template, where the next ConfigMap is not deleted. -/
def sampleMaps : {s : Simulation // s.transport = .direct} :=
  ⟨{ cluster := { configMaps := [(⟨"ci", "buildkit-fast-scripts"⟩,
        ⟨"buildkit-fast-scripts", "ci", .empty, none, .empty⟩)] },
     faults := [{ kind := .deleteConfigMap, code := 500, internal := none }] }, rfl⟩

/-- The first cycle publishes an older configuration and then fails. The cycle after it leaves the
same as it does without it, also together with a cycle of another template. -/
theorem Template.reconcile_publishes_attempted :
    let server := Simulation.directServer
    let view := Simulation.configMaps
    let v := sampleTemplate "default" "# none" false
    let t := sampleTemplate "default" "debug = true" true
    let t' := sampleTemplate "fast" "debug = false" true
    let s₀ := ((v.reconcile ⟨0, 0⟩).run server sampleMaps).state
    ((v.reconcile ⟨0, 0⟩).run server sampleMaps).result.isOk = false
      ∧ ∃ s₁ s₂ s₃ s₄ s₅,
        t.Succeeds server ⟨1, 0⟩ sampleMaps s₁ ∧ t.Succeeds server ⟨2, 0⟩ s₀ s₂
        ∧ t'.Succeeds server ⟨3, 0⟩ s₁ s₃
        ∧ t'.Succeeds server ⟨1, 0⟩ sampleMaps s₄ ∧ t.Succeeds server ⟨2, 0⟩ s₄ s₅
        ∧ (view s₀ ⟨"ci", "buildkit-default-toml"⟩).isSome
        ∧ ((view s₁ ⟨"ci", "buildkit-default-toml"⟩).bind fun c => c.data.get? "buildkitd.toml")
          = some "debug = true"
        ∧ view s₂ = view s₁ ∧ view s₅ = view s₃ := by
  intro server view v t t' s₀
  let s₁ := ((t.reconcile ⟨1, 0⟩).run server sampleMaps).state
  let s₄ := ((t'.reconcile ⟨1, 0⟩).run server sampleMaps).state
  obtain ⟨hfails, h₁, h₂, h₃, h₄, h₅, hvalid, hleft, htoml⟩ :
      ((v.reconcile ⟨0, 0⟩).run server sampleMaps).result.isOk = false
      ∧ ((t.reconcile ⟨1, 0⟩).run server sampleMaps).result.isOk = true
      ∧ ((t.reconcile ⟨2, 0⟩).run server s₀).result.isOk = true
      ∧ ((t'.reconcile ⟨3, 0⟩).run server s₁).result.isOk = true
      ∧ ((t'.reconcile ⟨1, 0⟩).run server sampleMaps).result.isOk = true
      ∧ ((t.reconcile ⟨2, 0⟩).run server s₄).result.isOk = true
      ∧ t.withDefaults.check.isValid = true
      ∧ (view s₀ ⟨"ci", "buildkit-default-toml"⟩).isSome
      ∧ ((view s₁ ⟨"ci", "buildkit-default-toml"⟩).bind fun c => c.data.get? "buildkitd.toml")
        = some "debug = true" := by decide +kernel
  have hversion : t.IsVersion v := by
    refine ⟨rfl, rfl, fun hinvalid => ?_⟩
    exact absurd (hvalid.symm.trans hinvalid) (by decide)
  have hattempted : Template.Attempted server t.IsVersion sampleMaps s₀ :=
    .cycle ⟨0, 0⟩ hversion (.none _)
  replace h₁ := Template.succeeds_of_isOk h₁
  replace h₂ := Template.succeeds_of_isOk h₂
  replace h₃ := Template.succeeds_of_isOk h₃
  replace h₄ := Template.succeeds_of_isOk h₄
  replace h₅ := Template.succeeds_of_isOk h₅
  have hns : t.ns = some "ci" := rfl
  obtain ⟨-, -, hattempts, horder⟩ :=
    Template.reconcile_publishes Simulation.storesConfigMaps hns
  refine ⟨hfails, _, _, _, _, _, h₁, h₂, h₃, h₄, h₅, hleft, htoml, ?_, ?_⟩
  · exact hattempts _ _ hattempted _ _ _ _ h₁ h₂
  · exact horder t' (Or.inr (by decide)) _ _ _ _ _ _ _ _ _ h₁ h₃ h₄ h₅

end BuildFleet
