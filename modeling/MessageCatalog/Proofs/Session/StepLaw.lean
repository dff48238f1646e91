import MessageCatalog.Proofs.Session.Read

/-! A property that a sequence of steps has when its steps have it is one of reading and of writing when
it is one of the steps that these are made of. -/

namespace MessageCatalog

namespace Session

/-- A session whose counts of writes begin at zero. -/
def counted (session : Session) : Session :=
  { session with summary := {
      filesScanned := session.sources.size
      keys := session.index.live.messages.size
      scanFailures := session.index.failures.size } }

/-- A session that counts the writing of a catalog with some entries. -/
def countCatalog (session : Session) (merged : List Entry) (written : Bool) : Session :=
  { session with summary := { session.summary with
      catalogWrites := session.summary.catalogWrites + written.toNat
      newEntries := session.summary.newEntries + countStatus merged .new
      unusedEntries := session.summary.unusedEntries + countStatus merged .unused } }

/-- A session that counts the writing of a bundle. -/
def countBundle (session : Session) (written : Bool) : Session :=
  { session with summary := { session.summary with
      bundleWrites := session.summary.bundleWrites + written.toNat } }

/-- What the bundles of a target are known to hold. -/
def bundleCache (target : Path) (session : Session) : WriteCache :=
  (session.bundleCaches.get? target).getD ∅

/-- A session with other knowledge of the bundles of a target. -/
def setBundleCache (target : Path) (session : Session) (cache : WriteCache) : Session :=
  { session with bundleCaches := session.bundleCaches.insert target cache }

section

variable {σ : Type} [FileSystem (StateM σ)] [Console (StateM σ)]

/-- Giving a catalog its text by way of the cache for catalogs. -/
def placeCatalog (path : Path) (text : String) : SessionM (StateM σ) Bool :=
  writeCached catalogCache (fun session cache => { session with catalogCache := cache }) path text

/-- Giving a bundle its text by way of the cache of its target. -/
def writeBundle (file : Path × String) : SessionM (StateM σ) Bool :=
  writeCached (bundleCache (targetOf file.1)) (setBundleCache (targetOf file.1)) file.1 file.2

end

variable {σ : Type}

/-- A property of steps that a sequence has when its steps have it. -/
structure StepLaw (P : (α : Type) → SessionM (StateM σ) α → Prop) : Prop where
  pure {α : Type} (value : α) : P α (Pure.pure value)
  get : P Session MonadState.get
  bind {α β : Type} {step : SessionM (StateM σ) α} {next : α → SessionM (StateM σ) β}
    (first : P α step) (second : ∀ value, P β (next value)) : P β (step >>= next)

namespace StepLaw

variable {P : (α : Type) → SessionM (StateM σ) α → Prop} (law : StepLaw P)

include law

/-- A step for each path. -/
theorem anyChange {step : Path → SessionM (StateM σ) Bool} (each : ∀ path, P Bool (step path))
    (paths : List Path) : P Bool (Session.anyChange step paths) := by
  induction paths with
  | nil => exact law.pure false
  | cons path paths ih => exact law.bind (each path) fun _ => law.bind ih fun _ => law.pure _

variable [Console (StateM σ)] [FileSystem (StateM σ)]

section

variable (drop : ∀ path, P Bool (dropSource path)) (load : ∀ path, P Bool (loadSource path))

include drop load

/-- Reading every source. -/
theorem readAll
    (search : ∀ patterns ignore, P _ (perform (FileSystem.glob patterns ignore)))
    (look : ∀ paths, P (List Path)
      (monadLift (keepPaths (fun path => return !(← FileSystem.isDir path)) paths :
        StateM σ (List Path)))) : P Bool Session.readAll := by
  -- After the lookup of files, those gone are dropped and the others loaded.
  refine law.bind law.get fun session => ?_
  refine law.bind (search _ _) fun matching => ?_
  refine law.bind (look _) fun files => ?_
  refine law.bind (law.anyChange drop _) fun dropped => ?_
  exact law.bind (law.anyChange load _) fun loaded => law.pure _

theorem takeUp (path : Path) : P Bool (Session.takeUp path) := by
  refine law.bind law.get fun session => ?_
  split
  · exact load path
  · exact drop path

/-- Reading some paths. -/
theorem readSome
    (look : ∀ paths : List Path, P (List (Path × Bool))
      (monadLift (paths.mapM fun path => return (path, ← FileSystem.isThere path) :
        StateM σ (List (Path × Bool))))) (paths : List Path) : P Bool (Session.readSome paths) := by
  refine law.bind (look paths) fun present => ?_
  refine law.bind (law.anyChange drop _) fun dropped => ?_
  exact law.bind (law.anyChange (law.takeUp drop load) _) fun loaded => law.pure _

end

/-- Bringing the catalog of a locale up to date. -/
theorem writeCatalog (reads : ∀ path, P String (readCatalog path))
    (faults : ∀ {α : Type} (doing : String) (path : Path) (result : Except CatalogFault α),
      P α (inCatalog doing path result))
    (places : ∀ path text, P Bool (placeCatalog path text))
    (counts : ∀ merged written, P PUnit (modify fun session => session.countCatalog merged written))
    (locale : String) : P (List Entry) (Session.writeCatalog locale) := by
  -- The catalog is read, parsed, merged into a text, and written by its cache.
  refine law.bind law.get fun session => ?_
  refine law.bind (reads _) fun stored => ?_
  refine law.bind (faults _ _ _) fun entries => ?_
  refine law.bind (faults _ _ _) fun text => ?_
  refine law.bind (places _ _) fun written => ?_
  exact law.bind (counts _ _) fun _ => law.pure _

/-- Bringing the catalogs of some locales up to date. -/
theorem writeCatalogs (each : ∀ locale, P (List Entry) (Session.writeCatalog locale))
    (locales : List String) (merged : SortedMap String (List Entry)) :
    P (SortedMap String (List Entry)) (Session.writeCatalogs locales merged) := by
  induction locales generalizing merged with
  | nil => exact law.pure merged
  | cons locale locales ih => exact law.bind (each locale) fun entries => ih _

/-- Writing some bundles. -/
theorem writeBundleFiles (each : ∀ file, P Bool (writeBundle file))
    (counts : ∀ written, P PUnit (modify fun session => session.countBundle written))
    (files : List (Path × String)) : P Unit (Session.writeBundleFiles files) := by
  induction files with
  | nil => exact law.pure ()
  | cons file files ih => exact law.bind (each file) fun written => law.bind (counts written) fun _ => ih

/-- Writing the bundles of all targets. -/
theorem writeBundles
    (search : ∀ patterns ignore, P _ (perform (FileSystem.glob patterns ignore)))
    (look : ∀ paths, P (List Path)
      (monadLift (keepPaths FileSystem.isDir paths : StateM σ (List Path))))
    (write : ∀ files, P Unit (Session.writeBundleFiles files))
    (merged : SortedMap String (List Entry)) : P Unit (Session.writeBundles merged) := by
  refine law.bind law.get fun session => ?_
  refine law.bind (search _ _) fun matching => ?_
  exact law.bind (look _) fun targets => write _

/-- Writing catalogs and bundles. -/
theorem write (begins : P PUnit (modify counted))
    (catalogs : ∀ locales, P _ (Session.writeCatalogs locales ∅))
    (bundles : ∀ merged, P Unit (Session.writeBundles merged)) : P Bool Session.write := by
  refine law.bind begins fun _ => law.bind law.get fun session => ?_
  refine law.bind (catalogs _) fun merged => law.bind (bundles merged) fun _ => ?_
  exact law.bind law.get fun session => law.pure _

end StepLaw

/-- What a reflexive and transitive relation of sessions asks of a step. -/
theorem stepLaw_keeps (R : Session → Session → Prop) (refl : ∀ session, R session session)
    (trans : ∀ {a b c : Session}, R a b → R b c → R a c) :
    StepLaw fun α (step : SessionM (StateM σ) α) => Keeps R step where
  pure _ session _ := refl session
  get session _ := refl session
  bind first second := first.bind second trans

end Session

end MessageCatalog
