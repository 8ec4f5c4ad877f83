import Gatehouse.Proofs.Backends

/-!
# Which addresses are the trust domain

Every address has one form that it is compared in, and that is the form which a statement to the
database puts it in as well. So what is the trust domain does not depend on how either of the two
addresses is spelled, and both stores find a provider's delegation on the same resource servers
(`normalise_canonical`).
-/

namespace Gatehouse

open Store Store.Relational

variable {t : Tables} {m : Memory} {database : Statement → Reply} {delegate provider : Uuid}
  {trustDomain other : String}

namespace ServerUrl

theorem same_equivalence : Equivalence fun a b => same a b = true where
  refl _ := same_iff.mpr rfl
  symm h := same_iff.mpr (same_iff.mp h).symm
  trans hab hbc := same_iff.mpr ((same_iff.mp hab).trans (same_iff.mp hbc))

theorem same_respelled {a a' b b' : String} (ha : Text.sameIgnoringCase a a' = true)
    (hb : Text.sameIgnoringCase b b' = true) (n k : Nat) :
    same (a' ++ slashes n) (b' ++ slashes k) = same a b := by
  unfold same
  rw [normalise_append_slashes, normalise_append_slashes, normalise_of_sameIgnoringCase ha,
    normalise_of_sameIgnoringCase hb]

end ServerUrl

namespace Store

namespace Relational

theorem holds_isOnServer {scope : Scope} {url : String}
    (h : scope.get ⟨some "rs", "url"⟩ = some (.text url)) :
    (isOnServer trustDomain).holds t scope = ServerUrl.same url trustDomain := by
  unfold isOnServer Condition.holds Term.eval
  simp only [Term.eval, h, onText, ← ServerUrl.normalise_eq, isEqual, ServerUrl.same]
  rw [Bool.eq_iff_iff]
  simp

theorem providerGrant_respelled (h : ServerUrl.same other trustDomain = true) :
    providerGrant delegate provider other = providerGrant delegate provider trustDomain := by
  have hserver : isOnServer other = isOnServer trustDomain := by
    unfold isOnServer
    rw [ServerUrl.same_iff.mp h]
  unfold providerGrant providerGrantStatement
  rw [hserver]

end Relational

theorem Memory.providerGrant_respelled (h : ServerUrl.same other trustDomain = true) :
    m.providerGrant delegate provider other = m.providerGrant delegate provider trustDomain := by
  unfold providerGrant ServerUrl.same
  rw [ServerUrl.same_iff.mp h]

end Store

namespace ServerUrl

end ServerUrl

end Gatehouse
