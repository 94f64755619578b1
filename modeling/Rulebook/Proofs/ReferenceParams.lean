/-
Rulebook/Proofs/ReferenceParams.lean

Parameters that stand for references.  The domain of a parameter enumerates
the references it can stand for, and a parameter is a place in it, counted
from one.  A reference has the first of its places (`idxOf?_eq_some_iff`), so
what is encoded can be decoded again, and the other way round unless the
domain repeats itself (`Codec.faithful_ofParam`, `Codec.exact_ofParam`).

Domains only ever grow at their end (`ParamSchema.Grows`), and what stands in
front of the end keeps its place.  This carries over from one extension to
every history of a registry (`Registry.lookup_grows`): a key that was built
once means the same ever after (`Registry.references_keep_params`).
-/
import Rulebook.Proofs.RegistryHistory

namespace Rulebook

/-! ### Places in a domain -/

/-- The place of a word in an array is the first at which it stands. -/
theorem idxOf?_eq_some_iff {xs : Array UInt64} {x : UInt64} {n : Nat} :
    xs.idxOf? x = some n ↔ xs[n]? = some x ∧ ∀ m < n, xs[m]? ≠ some x := by
  obtain ⟨l⟩ := xs
  simp only [List.idxOf?_toArray, List.getElem?_toArray]
  rw [List.idxOf?_eq_some_iff]
  constructor
  · rintro ⟨h, here, first⟩
    refine ⟨List.getElem?_eq_some_iff.mpr ⟨h, here⟩, fun m hm earlier => ?_⟩
    obtain ⟨_, same⟩ := List.getElem?_eq_some_iff.mp earlier
    exact first m hm same
  · rintro ⟨here, first⟩
    obtain ⟨h, here⟩ := List.getElem?_eq_some_iff.mp here
    refine ⟨h, here, fun m hm same => first m hm ?_⟩
    exact List.getElem?_eq_some_iff.mpr ⟨Nat.lt_trans hm h, same⟩

/-- In an array that repeats nothing, a word has one place. -/
theorem place_unique {xs : Array UInt64} {x : UInt64} {m n : Nat} (nodup : xs.toList.Nodup)
    (hm : xs[m]? = some x) (hn : xs[n]? = some x) : m = n := by
  rw [← Array.getElem?_toList] at hm hn
  have inside : m < xs.toList.length := (List.getElem?_eq_some_iff.mp hm).1
  exact (List.getElem?_inj inside nodup).mp (hm.trans hn.symm)

namespace ParamSchema

variable {s t u : ParamSchema} {raw : UInt64} {p : Param}

/-- A null reference is encoded by zero, any other by its place. -/
theorem encode_eq_some_iff :
    s.encode raw = some p ↔
      raw = 0 ∧ p.val = 0 ∨ raw ≠ 0 ∧ ∃ n, p.val = n + 1 ∧ s.domain.idxOf? raw = some n := by
  unfold encode
  -- null is encoded as zero without being looked for
  by_cases null : raw = 0
  · rw [if_pos null]
    simp only [null, true_and, ne_eq, not_true, false_and, or_false, Option.some.injEq]
    exact ⟨fun h => h ▸ rfl, fun h => Fin.ext h.symm⟩
  · rw [if_neg null]
    simp only [null, false_and, ne_eq, not_false_eq_true, true_and, false_or]
    rcases place : s.domain.idxOf? raw with - | n
    · simp
    · -- a place beyond the last parameter is no place
      by_cases room : n + 1 < 4096
      · simp only [dif_pos room, Option.some.injEq, exists_eq_right']
        exact ⟨fun h => h ▸ rfl, fun h => Fin.ext h.symm⟩
      · simp only [dif_neg room, Option.some.injEq, exists_eq_right', reduceCtorEq, false_iff]
        have := p.isLt
        omega

theorem decode_eq_some_iff :
    s.decode p = some raw ↔
      raw = 0 ∧ p.val = 0 ∨ ∃ n, p.val = n + 1 ∧ s.domain[n]? = some raw := by
  unfold decode
  rcases place : p.val with - | n
  · simp [eq_comm]
  · simp

theorem decode_encode (h : s.encode raw = some p) : s.decode p = some raw := by
  rw [decode_eq_some_iff]
  rcases encode_eq_some_iff.mp h with null | ⟨-, n, place, first⟩
  · exact .inl null
  · exact .inr ⟨n, place, (idxOf?_eq_some_iff.mp first).1⟩

/-- Where every reference has one place, and null has none, a parameter is
what encodes the reference that it stands for. -/
theorem encode_decode (nodup : s.domain.toList.Nodup) (nonnull : 0 ∉ s.domain)
    (h : s.decode p = some raw) : s.encode raw = some p := by
  rw [encode_eq_some_iff]
  rcases decode_eq_some_iff.mp h with null | ⟨n, place, here⟩
  · exact .inl null
  · refine .inr ⟨?_, n, place, idxOf?_eq_some_iff.mpr ⟨here, fun m hm earlier => ?_⟩⟩
    · rintro rfl
      exact nonnull (Array.mem_iff_getElem?.mpr ⟨n, here⟩)
    · exact Nat.ne_of_lt hm (place_unique nodup earlier here)

/-! ### Growth -/

/-- Whether a parameter schema is another one with more at the end of its domain. -/
structure Grows (s t : ParamSchema) : Prop where
  type : t.type = s.type
  default : t.default = s.default
  domain : ∃ more, t.domain = s.domain ++ more

theorem Grows.refl (s : ParamSchema) : s.Grows s := ⟨rfl, rfl, #[], Array.append_empty.symm⟩

theorem Grows.trans (h : s.Grows t) (h' : t.Grows u) : s.Grows u := by
  obtain ⟨more, e⟩ := h.domain
  obtain ⟨more', e'⟩ := h'.domain
  refine ⟨h'.type.trans h.type, h'.default.trans h.default, more ++ more', ?_⟩
  rw [e', e, Array.append_assoc]

theorem Grows.getElem? (h : s.Grows t) {n : Nat} (here : s.domain[n]? = some raw) :
    t.domain[n]? = some raw := by
  obtain ⟨more, e⟩ := h.domain
  obtain ⟨hn, -⟩ := Array.getElem?_eq_some_iff.mp here
  rw [e, Array.getElem?_append_left hn, here]

/-- What has a place keeps it: what is added stands behind it. -/
theorem Grows.idxOf? (h : s.Grows t) {n : Nat} (place : s.domain.idxOf? raw = some n) :
    t.domain.idxOf? raw = some n := by
  obtain ⟨here, first⟩ := idxOf?_eq_some_iff.mp place
  obtain ⟨hn, -⟩ := Array.getElem?_eq_some_iff.mp here
  refine idxOf?_eq_some_iff.mpr ⟨h.getElem? here, fun m hm => ?_⟩
  obtain ⟨more, e⟩ := h.domain
  rw [e, Array.getElem?_append_left (Nat.lt_trans hm hn)]
  exact first m hm

theorem Grows.encode (h : s.Grows t) (e : s.encode raw = some p) : t.encode raw = some p := by
  rw [encode_eq_some_iff] at e ⊢
  rcases e with null | ⟨nonnull, n, place, first⟩
  · exact .inl null
  · exact .inr ⟨nonnull, n, place, h.idxOf? first⟩

theorem Grows.decode (h : s.Grows t) (e : s.decode p = some raw) : t.decode p = some raw := by
  rw [decode_eq_some_iff] at e ⊢
  rcases e with null | ⟨n, place, here⟩
  · exact .inl null
  · exact .inr ⟨n, place, h.getElem? here⟩

/-- To extend a domain is to add at its end, one reference after another. -/
theorem grows_extend (s : ParamSchema) (raws : List UInt64) : s.Grows (s.extend raws) := by
  refine ⟨rfl, rfl, ?_⟩
  show ∃ more, raws.foldl (fun d raw => if d.contains raw then d else d.push raw) s.domain =
    s.domain ++ more
  generalize s.domain = d
  -- the domain is extended by one reference after another, or by none
  induction raws generalizing d with
  | nil => exact ⟨#[], Array.append_empty.symm⟩
  | cons raw raws ih =>
    obtain ⟨more, e⟩ := ih (if d.contains raw then d else d.push raw)
    rw [List.foldl_cons, e]
    split
    next => exact ⟨more, rfl⟩
    next => exact ⟨#[raw] ++ more, by rw [Array.push_eq_append, Array.append_assoc]⟩

end ParamSchema

/-! ### Codecs of references -/

/-- The two ways between the references of a kind and the values of a parameter. -/
structure Codec (k : RefKind) where
  encode : Ref k → Option Param
  decode : Param → Option (Ref k)

namespace Codec

variable {k : RefKind}

/-- Whether what is encoded can be decoded again; two references then never
share a parameter. -/
structure Faithful (c : Codec k) : Prop where
  decode_encode : ∀ r p, c.encode r = some p → c.decode p = some r
  injective : ∀ r r' p, c.encode r = some p → c.encode r' = some p → r = r'

/-- Whether every parameter that can be decoded is what encodes its reference. -/
def Exact (c : Codec k) : Prop := ∀ p r, c.decode p = some r → c.encode r = some p

/-- Whether all that can be encoded or decoded by `c` comes to the same by `c'`. -/
structure Keeps (c c' : Codec k) : Prop where
  encode : ∀ r p, c.encode r = some p → c'.encode r = some p
  decode : ∀ p r, c.decode p = some r → c'.decode p = some r

/-- The codec of a parameter, if there is such a parameter. -/
def ofParam (k : RefKind) (param : Option ParamSchema) : Codec k where
  encode r := param >>= (·.encode r.raw)
  decode p := (param >>= (·.decode p)).map Ref.mk

theorem encode_ofParam_eq_some_iff {param : Option ParamSchema} {r : Ref k} {p : Param} :
    (ofParam k param).encode r = some p ↔ ∃ s, param = some s ∧ s.encode r.raw = some p :=
  Option.bind_eq_some_iff

theorem decode_ofParam_eq_some_iff {param : Option ParamSchema} {r : Ref k} {p : Param} :
    (ofParam k param).decode p = some r ↔ ∃ s, param = some s ∧ s.decode p = some r.raw := by
  show Option.map Ref.mk (param >>= (·.decode p)) = some r ↔ _
  constructor
  · intro h
    obtain ⟨raw, found, rfl⟩ := Option.map_eq_some_iff.mp h
    exact Option.bind_eq_some_iff.mp found
  · rintro ⟨s, rfl, h⟩
    exact Option.map_eq_some_iff.mpr ⟨r.raw, h, rfl⟩

theorem faithful_ofParam (param : Option ParamSchema) : (ofParam k param).Faithful := by
  have back (r : Ref k) (p : Param) (h : (ofParam k param).encode r = some p) :
      (ofParam k param).decode p = some r := by
    obtain ⟨s, found, h⟩ := encode_ofParam_eq_some_iff.mp h
    exact decode_ofParam_eq_some_iff.mpr ⟨s, found, ParamSchema.decode_encode h⟩
  refine ⟨back, fun r r' p h h' => ?_⟩
  exact Option.some.inj ((back r p h).symm.trans (back r' p h'))

theorem exact_ofParam {param : Option ParamSchema}
    (distinct : ∀ s, param = some s → s.domain.toList.Nodup ∧ 0 ∉ s.domain) :
    (ofParam k param).Exact := by
  intro p r h
  obtain ⟨s, found, h⟩ := decode_ofParam_eq_some_iff.mp h
  obtain ⟨nodup, nonnull⟩ := distinct s found
  exact encode_ofParam_eq_some_iff.mpr ⟨s, found, ParamSchema.encode_decode nodup nonnull h⟩

theorem keeps_ofParam {param param' : Option ParamSchema}
    (grows : ∀ s, param = some s → ∃ t, param' = some t ∧ s.Grows t) :
    (ofParam k param).Keeps (ofParam k param') where
  encode r p h := by
    obtain ⟨s, found, h⟩ := encode_ofParam_eq_some_iff.mp h
    obtain ⟨t, found', more⟩ := grows s found
    exact encode_ofParam_eq_some_iff.mpr ⟨t, found', more.encode h⟩
  decode p r h := by
    obtain ⟨s, found, h⟩ := decode_ofParam_eq_some_iff.mp h
    obtain ⟨t, found', more⟩ := grows s found
    exact decode_ofParam_eq_some_iff.mpr ⟨t, found', more.decode h⟩

end Codec

namespace Schema

/-- Prototypes and the values of parameter `i`. -/
def prototypeCodec (s : Schema) (i : Nat) : Codec .prototype :=
  ⟨s.paramOfPrototype i, s.prototypeOfParam i⟩

/-- Assets and the values of parameter `i`. -/
def assetCodec (s : Schema) (i : Nat) : Codec .asset := ⟨s.paramOfAsset i, s.assetOfParam i⟩

theorem paramOf?_eq_some_iff {s : Schema} {type : ParamType} {i : Nat} {param : ParamSchema} :
    s.paramOf? type i = some param ↔ s.params[i]? = some param ∧ param.type = type := by
  simp [paramOf?, Option.filter_eq_some_iff]

/-- Whether every parameter of a schema is one of another, grown at most. -/
def Grows (s t : Schema) : Prop :=
  ∀ (i : Nat) (param : ParamSchema), s.params[i]? = some param →
    ∃ param', t.params[i]? = some param' ∧ param.Grows param'

theorem Grows.refl (s : Schema) : s.Grows s := fun _ param h => ⟨param, h, .refl param⟩

theorem Grows.trans {s t u : Schema} (h : s.Grows t) (h' : t.Grows u) : s.Grows u := by
  intro i param found
  obtain ⟨param', found', more⟩ := h i param found
  obtain ⟨param'', found'', more'⟩ := h' i param' found'
  exact ⟨param'', found'', more.trans more'⟩

theorem Grows.paramOf? {s t : Schema} (h : s.Grows t) {type : ParamType} {i : Nat}
    (param : ParamSchema) (found : s.paramOf? type i = some param) :
    ∃ param', t.paramOf? type i = some param' ∧ param.Grows param' := by
  obtain ⟨found, type⟩ := paramOf?_eq_some_iff.mp found
  obtain ⟨param', found', more⟩ := h i param found
  exact ⟨param', paramOf?_eq_some_iff.mpr ⟨found', more.type.trans type⟩, more⟩

theorem getElem?_extendParam (s : Schema) (i j : Nat) (ids : List PrototypeId) :
    (s.extendParam i ids).params[j]? =
      s.params[j]?.map fun p => if i = j then p.extend (ids.map (·.raw)) else p :=
  List.getElem?_modify ..

theorem grows_extendParam (s : Schema) (i : Nat) (ids : List PrototypeId) :
    s.Grows (s.extendParam i ids) := by
  intro j param found
  rw [getElem?_extendParam, found]
  refine ⟨_, rfl, ?_⟩
  split
  next => exact param.grows_extend _
  next => exact .refl param

end Schema

/-! ### Histories -/

namespace Registry

/-- A registered schema stays registered, with larger domains at most. -/
theorem lookup_grows {r : Registry} {p : Property} {s : Schema} (h : r.lookup p = some s)
    (us : List Update) : ∃ t, (r.after us).lookup p = some t ∧ s.Grows t :=
  lookup_induction h (.refl s) (fun t i ids more => more.trans (t.grows_extendParam i ids)) us

/-- **References keep their parameters.** For every registered property, what
a reference is encoded by stands for that reference, so that no two references
share a parameter; in a domain that repeats nothing and does not enumerate null,
what a parameter stands for is encoded by it; and after any updates, refused
ones among them, all that could be encoded or decoded comes to the same. -/
theorem references_keep_params (r : Registry) (p : Property) (s : Schema)
    (registered : r.lookup p = some s) :
    (∀ i, (s.prototypeCodec i).Faithful ∧ (s.assetCodec i).Faithful) ∧
    (∀ i param, s.params[i]? = some param → param.domain.toList.Nodup → 0 ∉ param.domain →
      (s.prototypeCodec i).Exact ∧ (s.assetCodec i).Exact) ∧
    ∀ us : List Update, ∃ t, (r.after us).lookup p = some t ∧
      ∀ i, (s.prototypeCodec i).Keeps (t.prototypeCodec i) ∧
        (s.assetCodec i).Keeps (t.assetCodec i) := by
  refine ⟨fun i => ⟨Codec.faithful_ofParam _, Codec.faithful_ofParam _⟩, ?_, fun us => ?_⟩
  · intro i param found nodup nonnull
    -- the parameter that is looked up by its sort is the one that was found
    have distinct (type : ParamType) (param' : ParamSchema)
        (h : s.paramOf? type i = some param') :
        param'.domain.toList.Nodup ∧ 0 ∉ param'.domain := by
      have same := (Schema.paramOf?_eq_some_iff.mp h).1
      rw [found] at same
      cases same
      exact ⟨nodup, nonnull⟩
    exact ⟨Codec.exact_ofParam (distinct .prototype), Codec.exact_ofParam (distinct .asset)⟩
  · -- domains grow at their end, and what has a place keeps it
    obtain ⟨t, found, more⟩ := lookup_grows registered us
    refine ⟨t, found, fun i => ?_⟩
    exact ⟨Codec.keeps_ofParam more.paramOf?, Codec.keeps_ofParam more.paramOf?⟩

/-- The schema of mission states, with two missions in the domain
of its parameter. -/
def twoMissions : Schema :=
  { property := .avatarMissionState, name := "AvatarMissionState", dataType := .integer,
    params := [{ type := .prototype, domain := #[70, 80] }] }

/-- The second of two missions keeps its parameter when a third is added and
another update is refused. -/
theorem second_mission_keeps_param :
    let r := ({} : Registry).after [.register twoMissions]
    let us : List Update :=
      [.extendDomain .avatarMissionState 0 [⟨80⟩, ⟨90⟩], .extendDomain ⟨9⟩ 0 [⟨60⟩]]
    r.lookup .avatarMissionState = some twoMissions ∧
      (twoMissions.prototypeCodec 0).Faithful ∧ (twoMissions.prototypeCodec 0).Exact ∧
      ∃ t p, (r.after us).lookup .avatarMissionState = some t ∧ p.val = 2 ∧
        twoMissions.paramOfPrototype 0 ⟨80⟩ = some p ∧ t.paramOfPrototype 0 ⟨80⟩ = some p ∧
        t.prototypeOfParam 0 p = some ⟨80⟩ := by
  intro r us
  have registered : r.lookup .avatarMissionState = some twoMissions := rfl
  obtain ⟨faithful, exact, keeps⟩ :=
    references_keep_params r .avatarMissionState twoMissions registered
  obtain ⟨t, found, kept⟩ := keeps us
  have second : (twoMissions.paramOfPrototype 0 ⟨80⟩).map Fin.val = some 2 := by cbv
  obtain ⟨p, encoded, two⟩ := Option.map_eq_some_iff.mp second
  refine ⟨registered, (faithful 0).1, (exact 0 _ rfl (by decide) (by simp)).1, t, p, found, two,
    encoded, (kept 0).1.encode _ _ encoded, ?_⟩
  exact (kept 0).1.decode _ _ ((faithful 0).1.decode_encode _ _ encoded)

end Registry

end Rulebook
