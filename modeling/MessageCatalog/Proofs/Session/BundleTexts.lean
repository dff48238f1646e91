import MessageCatalog.Proofs.Path
import MessageCatalog.Proofs.Session.Finished
import MessageCatalog.Proofs.Session.History

/-! Bundles have the texts that the session knows of them, as long as only the session writes them. -/

namespace MessageCatalog

/-- A path names the same file however it is spelled. -/
def DiskView.IgnoresSpelling {δ : Type} [Disk δ] (view : DiskView δ) : Prop :=
  ∀ (disk : δ) (path other : Path), compare path other = .eq →
    view.text? disk path = view.text? disk other

/-- Files in memory are found however their paths are spelled. -/
theorem MemoryDisk.view_ignoresSpelling : MemoryDisk.view.IgnoresSpelling :=
  fun _ _ _ equal => SortedMap.get?_congr equal

namespace WriteCache

variable {δ : Type} [Disk δ] {view : DiskView δ} {cache updated : WriteCache} {path other : Path}
  {text : String} {world later : World δ} {outcome : Outcome Bool}

/-- Giving a file a text teaches nothing about other files. -/
theorem Gives.get?_other (gives : Gives view cache path text world outcome updated later)
    (differs : compare other path ≠ .eq) : updated.get? other = cache.get? other := by
  have inserted : (cache.insert path text).get? other = cache.get? other := by
    rw [SortedMap.get?_insert, if_neg differs]
  cases gives with
  | cached => rfl
  | found => exact inserted
  | put => exact inserted
  | failed => rfl

/-- Giving a file a text leaves other files as they are; where it was put into the file, it is known. -/
theorem Gives.text?_other (gives : Gives view cache path text world outcome updated later)
    (apart : updated.get? path = some text → view.Apart path other) :
    view.text? later.disk other = view.text? world.disk other := by
  -- Only a text that is put changes a file, and then it is known.
  cases gives with
  | cached => rfl
  | found => rfl
  | put _ _ put =>
    refine put.others other (apart ?_)
    rw [SortedMap.get?_insert, if_pos Std.ReflCmp.compare_self]
  | failed _ _ untouched => exact untouched.text? other

end WriteCache

namespace Session

section

variable {δ : Type} [Disk δ] (view : DiskView δ)

/-- The bundles that the session knows lie apart from the catalogs, and apart from one another, unless two
paths spell one file. -/
structure OutputsApart (session : Session) : Prop where
  catalogs : ∀ path, session.KnowsBundle path → ∀ locale ∈ session.config.locales,
    view.Apart path (session.catalogPath locale) ∧ view.Apart (session.catalogPath locale) path
  bundles : ∀ path other, session.KnowsBundle path → session.KnowsBundle other →
    compare other path = .eq ∨ view.Apart path other

/-- The texts that bundles are known to have are there. -/
def HoldsBundles (session : Session) (disk : δ) : Prop :=
  ∀ file, session.KnowsText file → view.text? disk file.1 = some file.2

end

/-- The target of a bundle is told by the components of its path. -/
theorem components_targetOf (path : Path) :
    (targetOf path).components = ((Path.holding? path.components).bind Path.holding?).getD [] := by
  rw [← Path.map_components_parent?, targetOf]
  cases path.parent? with
  | none => rfl
  | some dir =>
    rw [Option.map_some, Option.bind_some, Option.bind_some, ← Path.map_components_parent?]
    cases dir.parent? <;> rfl

/-- A bundle belongs to one target however its path is spelled. -/
theorem targetOf_congr {path other : Path} (same : compare path other = .eq) :
    compare (targetOf path) (targetOf other) = .eq := by
  have components : path.components = other.components := Std.LawfulEqOrd.eq_of_compare same
  show compare (targetOf path).components (targetOf other).components = .eq
  rw [components_targetOf, components_targetOf, components]
  exact Std.ReflCmp.compare_self

/-- Where the text of a bundle is known, the bundle is. -/
theorem KnowsText.knowsBundle {session : Session} {file : Path × String}
    (known : session.KnowsText file) : session.KnowsBundle file.1 := by
  rw [KnowsText, bundleCache] at known
  -- What is known of a file stands in the cache of its target.
  cases found : session.bundleCaches.get? (targetOf file.1) with
  | none =>
    rw [found] at known
    cases known
  | some cache =>
    rw [found, Option.getD_some] at known
    refine ⟨_, cache, found, ?_⟩
    rw [SortedMap.contains_eq_isSome_get?, known]
    rfl

section

variable {δ : Type} [Disk δ] {view : DiskView δ} {session after : Session} {world later : World δ}

/-- The bundles that are no catalogs at the end were none before. -/
theorem OutputsApart.bundlesApart (apart : OutputsApart view session) : BundlesApart view session :=
  fun path known locale listed => (apart.catalogs path known locale listed).1

/-- Without bundles outputs lie apart. -/
theorem outputsApart_of_bare (view : DiskView δ) {session : Session}
    (bare : session.bundleCaches = ∅) : OutputsApart view session where
  catalogs path known := absurd known (not_knowsBundle bare path)
  bundles path _ known := absurd known (not_knowsBundle bare path)

/-- In memory outputs lie apart when none of the known bundles has the path of a catalog. -/
theorem outputsApart_of_caches {session : Session}
    (differ : ∀ entry ∈ session.bundleCaches.toList, ∀ path ∈ entry.2.keys,
      ∀ locale ∈ session.config.locales, compare (session.catalogPath locale) path ≠ .eq) :
    OutputsApart MemoryDisk.view session where
  catalogs := by
    rintro path ⟨target, cache, found, known⟩ locale listed
    obtain ⟨entry, stored, rfl⟩ := Option.map_eq_some_iff.1 found
    obtain ⟨key, inside, same⟩ := SortedMap.contains_iff.1 known
    -- A key of the cache stands for the same file as the path.
    have distinct : compare (session.catalogPath locale) path ≠ .eq := fun equal =>
      differ entry (SortedMap.entry?_eq_some_iff.1 stored).1 key inside locale listed
        (Std.TransCmp.eq_trans equal same)
    exact ⟨distinct, fun equal => distinct (Std.OrientedCmp.eq_symm equal)⟩
  bundles path other _ _ := Decidable.em (compare other path = .eq)

/-- Outputs that lie apart at the end did so before. -/
theorem OutputsApart.of_knowsMore (apart : OutputsApart view after)
    (same : SameSettings session after) (knows : KnowsMore session after) :
    OutputsApart view session where
  catalogs := by
    intro path known locale listed
    rw [← same.catalogPath_eq]
    refine apart.catalogs path (knows path known) locale ?_
    rw [same.1]
    exact listed
  bundles path other known known' := apart.bundles path other (knows path known) (knows other known')

/-- Known texts stay where the session knows no other ones and the files of bundles stay. -/
theorem HoldsBundles.of_kept {before disk : δ} (holds : HoldsBundles view session before)
    (kept : after.bundleCaches = session.bundleCaches)
    (files : ∀ path, session.KnowsBundle path → view.text? disk path = view.text? before path) :
    HoldsBundles view after disk := by
  intro file known
  have known : session.KnowsText file := known.of_kept kept.symm
  rw [files _ known.knowsBundle]
  exact holds file known

/-- Writing a bundle keeps known texts where they are. -/
theorem HoldsBundles.writeBundle (spelling : view.IgnoresSpelling)
    (honest : view.Honest world.disk) (holds : HoldsBundles view session world.disk)
    {file : Path × String} {outcome : Outcome Bool}
    (ran : runOn (writeBundle file) session world = (outcome, after, later))
    (apart : OutputsApart view after) : HoldsBundles view after later.disk := by
  obtain ⟨updated, rfl, gives⟩ := gives_of_writeCached view ran
  intro other known
  have known' := known
  rw [KnowsText, bundleCache_setBundleCache] at known'
  by_cases equal : compare other.1 file.1 = .eq
  · -- It is the file that is written.
    rw [if_pos (targetOf_congr equal), SortedMap.get?_congr equal] at known'
    rw [spelling _ _ _ equal]
    exact gives.there_of_known honest (fun text known => holds (file.1, text) known) known'
  · -- For another file the cache knows what it knew, whether or not it is the same target's.
    have before : session.KnowsText other := by
      by_cases target : compare (targetOf other.1) (targetOf file.1) = .eq
      · rw [if_pos target, gives.get?_other equal] at known'
        rw [KnowsText, bundleCache, SortedMap.get?_congr target]
        exact known'
      · rw [if_neg target] at known'
        exact known'
    rw [gives.text?_other]
    · exact holds other before
    · -- The written file is known as well, and known files of two paths are apart.
      intro written
      have written : (setBundleCache (targetOf file.1) session updated).KnowsText file := by
        rw [KnowsText, bundleCache_setBundleCache, if_pos Std.ReflCmp.compare_self]
        exact written
      exact (apart.bundles _ _ written.knowsBundle known.knowsBundle).resolve_left equal

/-- Writing bundles, also when it fails on the way, keeps known texts where they are. -/
theorem HoldsBundles.writeBundleFiles (spelling : view.IgnoresSpelling)
    (honest : view.Honest world.disk) (holds : HoldsBundles view session world.disk)
    {files : List (Path × String)} {outcome : Outcome Unit}
    (ran : runOn (writeBundleFiles files) session world = (outcome, after, later))
    (apart : OutputsApart view after) : HoldsBundles view after later.disk := by
  induction files generalizing session world with
  | nil =>
    cases ran
    exact holds
  | cons file files ih =>
    rcases writeBundleFiles_cases ran with ⟨_, -, wrote⟩ | ⟨_, between, _, wrote, rest⟩
    · exact holds.writeBundle spelling honest wrote apart
    · have adds := AddsBundles.of_writeBundle view wrote
      have others := (AddsBundles.of_writeBundleFiles view rest).of_countBundle
      -- What is known at the end includes what is known on the way.
      have apart' : OutputsApart view between :=
        apart.of_knowsMore others.kept.keepsReading.sameSettings others.knows
      have first := holds.writeBundle spelling honest wrote apart'
      refine ih (adds.files.honest honest) (first.of_kept ?_ fun _ _ => rfl) rest
      rfl

/-- Known texts stay where they are while catalogs are written, for no bundle is one of these. -/
theorem HoldsBundles.advances {before disk : δ} (holds : HoldsBundles view session before)
    (apart : OutputsApart view session)
    (advances : Advances view session.counted after before disk) : HoldsBundles view after disk := by
  refine holds.of_kept (by rw [advances.kept]; rfl) fun path known => ?_
  refine advances.files.others path ?_
  rintro _ ⟨locale, listed, rfl⟩
  exact (apart.catalogs path known locale listed).2

/-- A writing, also when it fails on the way, keeps known texts where they are. -/
theorem HoldsBundles.write (spelling : view.IgnoresSpelling)
    (lined : Lined view session world.disk session.config.locales)
    (holds : HoldsBundles view session world.disk) {outcome : Outcome Bool}
    (ran : runOn write session world = (outcome, after, later)) (apart : OutputsApart view after) :
    HoldsBundles view after later.disk := by
  have writes := Writes.of_ran lined ran
  have apart' := apart.of_knowsMore (writes.touchesOnly lined).1.sameSettings
    (writes.knowsMore lined)
  -- The catalogs lie apart from the bundles, and then the bundles are written one by one.
  cases writes with
  | stopped renews => exact holds.advances apart' (renews.advances lined.counted)
  | @written all between after middle later result renews bundles =>
    have advances := renews.advances lined.counted
    have holds := holds.advances apart' advances
    rw [runOn_writeBundles] at bundles
    -- Where the targets are not found, nothing comes after the catalogs.
    cases found : between.targets middle.disk with
    | error failure =>
      rw [found] at bundles
      cases bundles
      exact holds
    | ok targets =>
      rw [found] at bundles
      exact holds.writeBundleFiles spelling (advances.files.honest lined.honest) bundles apart

/-- Whatever happens, known texts stay where they are, as long as other programs spare bundles. -/
theorem HoldsBundles.happens {moment now : Session × World δ} (spelling : view.IgnoresSpelling)
    (lined : Lined view moment.1 moment.2.disk moment.1.config.locales)
    (holds : HoldsBundles view moment.1 moment.2.disk)
    (happens : Happens view KnowsBundle moment now) (apart : OutputsApart view now.1) :
    HoldsBundles view now.1 now.2.disk := by
  -- Only a writing touches the bundles; all else keeps both what is known and the files.
  cases happens with
  | others _ alone => exact holds.of_kept rfl alone
  | @read _ _ _ _ changed _ ran =>
    refine holds.of_kept ?_ fun path _ => by rw [(keepsDisk_read changed).of_ran ran]
    rw [keepsRest_of_read ran]
  | write ran => exact holds.write spelling lined ran apart
  | close ran _ alone => exact holds.of_kept (by rw [eq_of_close ran]) alone

/-- Over a history in which other programs spare bundles, known texts are there. -/
theorem History.holdsBundles {start now : Session × World δ} {past : List (Session × World δ)}
    (spelling : view.IgnoresSpelling) (history : History view KnowsBundle start (now :: past))
    (begun : Lined view start.1 start.2.disk start.1.config.locales)
    (bare : start.1.bundleCaches = ∅) (apart : OutputsApart view now.1) :
    HoldsBundles view now.1 now.2.disk := by
  generalize told : now :: past = moments at history
  -- By induction on the moments; what is known now was known apart from outputs before, too.
  induction history generalizing now past with
  | start =>
    cases told
    exact fun file known => absurd known.knowsBundle (not_knowsBundle bare _)
  | next earlier happens ih =>
    cases told
    have lined := earlier.lined begun
    have apart' := apart.of_knowsMore happens.sameSettings (happens.knowsMore lined)
    exact (ih apart' rfl).happens spelling lined happens apart

end

end Session

end MessageCatalog
