import TypedQuery.Column

/-!
# Values in the domain of their kind

A check accepts the values in the domain of a kind and no others.  Attributes
are come by in few ways, and each of them checks the value or takes it from a
type that has no value outside the domain.
-/

namespace TypedQuery

namespace Kind

theorem check_eq_ok_iff {kind : Kind} {value : kind.Carrier} :
    kind.check value = .ok () ↔ kind.InDomain value := by
  cases kind with
  | decimal =>
      constructor
      · intro h
        rw [check, checkDecimal] at h
        split at h
        · assumption
        · cases h
      · intro h
        exact if_pos h
  | _ => exact ⟨fun _ => trivial, fun _ => rfl⟩

/-- A value that passes the check is passed on, and it is in the domain. -/
theorem checkOption_eq_ok_iff
    {kind : Kind} {value checked : Option kind.Carrier} :
    kind.checkOption value = .ok checked ↔
      checked = value ∧ ∀ v, value = some v → kind.InDomain v := by
  cases value with
  | none =>
      constructor
      · intro h
        obtain rfl := Except.ok.inj h
        exact ⟨rfl, fun v hv => nomatch hv⟩
      · rintro ⟨rfl, -⟩
        rfl
  | some value =>
      rw [checkOption]
      constructor
      · intro h
        cases hcheck : kind.check value with
        | error error =>
            rw [hcheck] at h
            cases h
        | ok =>
            rw [hcheck] at h
            obtain rfl := Except.ok.inj h
            refine ⟨rfl, ?_⟩
            intro v hv
            obtain rfl := Option.some.inj hv
            exact check_eq_ok_iff.mp hcheck
      · rintro ⟨rfl, h⟩
        rw [check_eq_ok_iff.mpr (h value rfl)]
        rfl

end Kind

namespace Attribute

variable {kind : Kind}

/-- The attributes that can be come by: from a value, a cell or a text, each
checked, or from a native value of a kind that needs no check. -/
inductive Obtained : {kind : Kind} → Attribute kind → Prop where
  | null {kind : Kind} : Obtained (Attribute.null : Attribute kind)
  | ofOption {kind : Kind} {value : Option kind.Carrier} {attr : Attribute kind}
      (h : Attribute.ofOption value = .ok attr) : Obtained attr
  | ofCell {kind : Kind} {cell : Value} {attr : Attribute kind}
      (h : Attribute.ofCell cell = .ok attr) : Obtained attr
  | ofText {kind : Kind} {text : String} {attr : Attribute kind}
      (h : Attribute.ofText text = .ok attr) : Obtained attr
  | native {kind : Kind} (h : kind ≠ .decimal) (value : kind.Carrier) :
      Obtained ⟨some value⟩

theorem inDomain_of_ofOption
    {value : Option kind.Carrier} {attr : Attribute kind}
    (h : ofOption value = .ok attr) : attr.InDomain := by
  rw [ofOption] at h
  cases hchecked : kind.checkOption value with
  | error error =>
      rw [hchecked] at h
      cases h
  | ok checked =>
      obtain ⟨rfl, hdomain⟩ := Kind.checkOption_eq_ok_iff.mp hchecked
      rw [hchecked] at h
      obtain rfl := Except.ok.inj h
      exact hdomain

theorem inDomain_of_ofCell
    {cell : Value} {attr : Attribute kind} (h : ofCell cell = .ok attr) :
    attr.InDomain := by
  obtain ⟨value, -, hvalue⟩ := bind_eq_ok_iff.mp h
  exact inDomain_of_ofOption hvalue

theorem inDomain_of_ofText
    {text : String} {attr : Attribute kind} (h : ofText text = .ok attr) :
    attr.InDomain := by
  obtain ⟨value, -, hvalue⟩ := bind_eq_ok_iff.mp h
  exact inDomain_of_ofOption hvalue

/-- A value of an attribute is in the domain, however it was come by. -/
theorem Obtained.inDomain {attr : Attribute kind} (h : attr.Obtained) :
    attr.InDomain := by
  cases h with
  | null => exact fun value hvalue => nomatch hvalue
  | ofOption h => exact inDomain_of_ofOption h
  | ofCell h => exact inDomain_of_ofCell h
  | ofText h => exact inDomain_of_ofText h
  | native h value =>
      intro v _
      cases kind with
      | decimal => exact absurd rfl h
      | _ => trivial

end Attribute

end TypedQuery
