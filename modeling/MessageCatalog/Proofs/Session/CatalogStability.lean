import Mathlib
import MessageCatalog.Disk.Tree
import MessageCatalog.Proofs.Disk.Memory
import MessageCatalog.Proofs.Session.FirstRead
import MessageCatalog.Proofs.Session.Reached
import MessageCatalog.Proofs.Session.Writes

/-! Catalogs that have been written stay as they are when the session is written again, and when another
session is brought up to date on the same files. -/

namespace MessageCatalog

namespace Session

section

variable {δ : Type} [Disk δ] {view : DiskView δ}

end

/-- A session on a script that is named by way of the directory for catalogs. -/
private def roundaboutSession : Session := onFile "locales/../src/a.js" ["en"] []

/-- A session whose only output is a catalog that the input patterns do not match. -/
private def Harmless (session : Session) : Prop :=
  session.bundleCaches = ∅ ∧ session.config.locales = ["en"] ∧
    session.catalogPath "en" = ⟨"locales/en.po"⟩ ∧ session.included = roundaboutSession.included

private instance (session : Session) : Decidable (Harmless session) :=
  inferInstanceAs (Decidable (_ ∧ _))

private theorem Harmless.unmatched {session : Session} (harmless : Harmless session) (path : Path) :
    (session.KnowsBundle path → ¬ session.IsCatalog path) ∧
      (session.IsOutput path → ∀ pattern ∈ session.included, pattern.matchesPath path = false) := by
  obtain ⟨bare, locales, catalog, included⟩ := harmless
  -- The pattern names the script by way of another directory.
  have unmatched : ∀ pattern ∈ roundaboutSession.included,
      pattern.matchesPath ⟨"locales/en.po"⟩ = false := by
    rintro pattern (- | ⟨-, ⟨⟩⟩)
    cbv
  refine ⟨fun known => absurd known (not_knowsBundle bare path), ?_⟩
  rintro (⟨locale, listed, rfl⟩ | known)
  · rw [locales] at listed
    obtain rfl := List.mem_singleton.1 listed
    rw [catalog, included]
    exact unmatched
  · exact absurd known (not_knowsBundle bare path)

end Session

end MessageCatalog
