import ChainHost.Catalog
import ChainHost.Proofs.Reports

namespace ChainHost

theorem schemaOf?_eq_some_iff {interfaces : List Interface} {name : String} {schema : Schema}
    (h : (interfaces.map Interface.name).Nodup) :
    schemaOf? interfaces name = some schema ↔ ⟨name, schema⟩ ∈ interfaces := by
  induction interfaces
  case nil => simp [schemaOf?]
  case cons i rest hi =>
    obtain ⟨hm, hn⟩ := List.nodup_cons.1 h
    obtain ⟨name', schema'⟩ := i
    by_cases he : name' = name
    case pos =>
      subst he
      have hm : (⟨name', schema⟩ : Interface) ∉ rest := fun hr =>
        hm (List.mem_map.2 ⟨_, hr, rfl⟩)
      simp [schemaOf?, hm, eq_comm]
    case neg => simpa [schemaOf?, he, Ne.symm he] using hi hn

namespace Catalog

variable {c d : Catalog} {i : Interface}

theorem expose_eq_ok (h : c.expose i = .ok d) :
    c.closed = false ∧ i.name ∉ c.interfaces.map Interface.name ∧
      d.interfaces = c.interfaces ++ [i] ∧ d.closed = false := by
  have hi := interfaces_expose h
  unfold expose at h
  split at h
  case isTrue => cases h
  case isFalse hc =>
    split at h
    case isTrue => cases h
    case isFalse hm =>
      cases h
      exact ⟨by simpa using hc, hm, hi, by simpa using hc⟩

theorem expose_reports (h : c.closed = false) (i : Interface) :
    Reports (c.expose i)
      (if i.name ∈ c.interfaces.map Interface.name then [.alreadyExposed i.name] else []) := by
  unfold expose
  rw [if_neg (by simp [h])]
  split
  case isTrue hm  => simpa [hm] using Reports.error _ _
  case isFalse hm => simpa [hm] using Reports.ok _

end Catalog
end ChainHost
