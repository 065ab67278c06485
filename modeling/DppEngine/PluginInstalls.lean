import DppEngine.FallibleSteps
import DppEngine.KeyedTables
import DppEngine.SealOutbox
import DppEngine.TransitionSystems
import DppEngine.TrustedListDocuments
import Mathlib.Data.List.DropRight

/-! The compliance plugins of a node: the artifacts in its plugins directory, the boot that loads
them, and the installs of new ones while it runs.

An install writes to a staging directory, loads the plugin from there and then renames its two
files into place. Every statement of an install on the file system is one atomic step, and so are
its reads of the signature and of the artifact; installs interleave, and the process may stop
between any two steps and boot again, which is one step. A failed write leaves the file as it was.
Nobody else writes to the plugins directory. -/
namespace PluginInstalls

open CmsSeals (Bytes)
open FallibleSteps KeyedTables TransitionSystems
open SealOutbox (eqIgnoreAsciiCase)
open TrustedListDocuments (trim isWhitespace)

section Names

/-- `Path::file_stem` and `Path::extension` read the two halves of a name at its last dot, unless
nothing stands before it. -/
def rsplitFileAtDot (file : String) : Option String × Option String :=
  let untilDot := file.toList.rdropWhile (· ≠ '.')
  if untilDot = [] then (none, some file)
  else if file = ".." ∨ untilDot.dropLast = [] then (some file, none)
  else (some (String.ofList untilDot.dropLast),
    some (String.ofList (file.toList.rtakeWhile (· ≠ '.'))))

def fileStem (file : String) : Option String :=
  (rsplitFileAtDot file).1.or (rsplitFileAtDot file).2

def extension (file : String) : Option String :=
  (rsplitFileAtDot file).1.bind fun _ => (rsplitFileAtDot file).2

def isPrecompiled (file : String) : Bool := extension file = some "cwasm"

def pluginPrefix : String := "product-group-"

def stripPrefix (p s : String) : Option String :=
  if p.toList <+: s.toList then some (String.ofList (s.toList.drop p.toList.length)) else none

def discovered (file : String) : Option String :=
  if extension file = some "wasm" ∨ extension file = some "cwasm" then
    (stripPrefix pluginPrefix ((fileStem file).getD "")).filter (· ≠ "")
  else none

/-- The directory is read in no particular order. -/
def discoverPlugins (listing : List String) : List (String × String) :=
  listing.filterMap fun file => (discovered file).map fun key => (key, file)

def ext (precompiled : Bool) : String := if precompiled then "cwasm" else "wasm"

def artifactName (productGroup : String) (precompiled : Bool) : String :=
  pluginPrefix ++ productGroup ++ "." ++ ext precompiled

def sigName (artifact : String) : String := artifact ++ ".sig"

end Names

section Files

/-- A staging directory is named by the clock and a counter of the process. -/
structure Path where
  staging : Option (ℕ × ℕ)
  file : String
  deriving DecidableEq, Repr

def live (file : String) : Path := ⟨none, file⟩

def Path.sig (path : Path) : Path := ⟨path.staging, sigName path.file⟩

structure File where
  path : Path
  bytes : Bytes

abbrev Disk := Table File.path

namespace Disk

variable (d : Disk)

def read (path : Path) : Option Bytes := (d.get path).map File.bytes

def write (path : Path) (bytes : Bytes) : Disk := Table.write d ⟨path, bytes⟩

def remove (path : Path) : Disk := d.delete fun f => f.path = path

def removeDirAll (staging : ℕ × ℕ) : Disk := d.delete fun f => f.path.staging = some staging

def rename (source target : Path) : Option Disk :=
  (d.read source).map fun bytes => (remove d source).write target bytes

def listing : List String :=
  (d.rows.filter fun f => f.path.staging = none).map fun f => f.path.file

end Disk

end Files

section Loading

/-- The signature scheme and the runtime. A module that cannot be instantiated has no description
at all, and one without the export has an empty one. -/
structure Engine (Key Module Capabilities : Type) where
  verifyingKey : String → Option Key
  sha256 : Bytes → Bytes
  verify : Key → Bytes → Bytes → Bool
  fromUtf8Lossy : Bytes → String
  base64Decode : String → Option Bytes
  deserialize : Bytes → Option Module
  compile : Bytes → Option Module
  describe : Module → Option (Option Capabilities)
  hostDefaults : Capabilities
  isCompatible : Capabilities → Bool
  abiVersion : Capabilities → ℕ × ℕ

inductive NodeProfile where
  | development | sandbox | production
  deriving DecidableEq, Repr

structure Env where
  pluginSigningKey : Option String
  allowUnsignedPlugins : Option String
  profile : NodeProfile

structure LoadedPlugin (Module Capabilities : Type) where
  module : Module
  productGroupKey : String
  capabilities : Capabilities
  signatureVerified : Bool

inductive LoadError where
  | signatureNotFound | unreadable | notBase64 | invalidSignature | notVerified
  | unsigned | unsignedNative | incompatibleArtifact | failedToCompile | failedToInstantiate
  | abiIncompatible
  deriving DecidableEq, Repr

variable {Key Module Capabilities : Type} (engine : Engine Key Module Capabilities)

def unsignedAllowed (value : Option String) : Bool :=
  value.any fun v => eqIgnoreAsciiCase v "true"

def signatureBytes (raw : Bytes) : Option Bytes :=
  if raw.length = 64 then some raw else engine.base64Decode (trim (engine.fromUtf8Lossy raw))

def verifyPluginSignature (sig artifact : Option Bytes) (key : Key) : Except LoadError Unit :=
  match sig, artifact with
  | none, _ => .error .signatureNotFound
  | some _, none => .error .unreadable
  | some raw, some bytes =>
    match signatureBytes engine raw with
    | none => .error .notBase64
    | some signature =>
      if signature.length ≠ 64 then .error .invalidSignature
      else if engine.verify key (engine.sha256 bytes) signature then .ok ()
      else .error .notVerified

/-- The first half of `from_file`: whether the artifact may be loaded, and whether a key says so. -/
def vet (env : Env) (key : Option Key) (sig artifact : Option Bytes) : Except LoadError Bool :=
  match key with
  | some key => (verifyPluginSignature engine sig artifact key).map fun _ => true
  | none => if unsignedAllowed env.allowUnsignedPlugins then .ok false else .error .unsigned

/-- Its second half, which reads the artifact again. -/
def load (key : Option Key) (productGroupKey : String) (precompiled signatureVerified : Bool)
    (artifact : Option Bytes) : Except LoadError (LoadedPlugin Module Capabilities) :=
  if precompiled && key.isNone then .error .unsignedNative
  else
    match artifact with
    | none => .error (if precompiled then .unreadable else .failedToCompile)
    | some bytes =>
      match if precompiled then engine.deserialize bytes else engine.compile bytes with
      | none => .error (if precompiled then .incompatibleArtifact else .failedToCompile)
      | some module =>
        match engine.describe module with
        | none => .error .failedToInstantiate
        | some described =>
          let capabilities := described.getD engine.hostDefaults
          if engine.isCompatible capabilities then
            .ok ⟨module, productGroupKey, capabilities, signatureVerified⟩
          else .error .abiIncompatible

def fromFile (env : Env) (key : Option Key) (d : Disk) (path : Path) (productGroupKey : String) :
    Except LoadError (LoadedPlugin Module Capabilities) := do
  let signatureVerified ← vet engine env key (Disk.read d path.sig) (Disk.read d path)
  load engine key productGroupKey (isPrecompiled path.file) signatureVerified (Disk.read d path)

end Loading

section Nodes

inductive BootError where
  | invalidSigningKey | unsignedRefused (profile : NodeProfile) | unsignedPlugins (count : ℕ)
  | failedToLoad (productGroupKey : String) (file : String) (error : LoadError)
  deriving DecidableEq, Repr

inductive PluginInstallError where
  | invalidKey (productGroup : String) | rejected (error : LoadError) | persist
  deriving DecidableEq, Repr

structure InstalledPlugin where
  productGroup : String
  abiVersion : String
  deriving DecidableEq, Repr

/-- Where an install stands: what it has done last. -/
inductive Phase (Module Capabilities : Type) where
  | named
  | created
  | written
  | staged
  | vetted (signatureVerified : Bool)
  | loaded (plugin : LoadedPlugin Module Capabilities)
  | promoted (plugin : LoadedPlugin Module Capabilities)
  | paired (plugin : LoadedPlugin Module Capabilities)
  | unstaged (plugin : LoadedPlugin Module Capabilities)
  | cleared (plugin : LoadedPlugin Module Capabilities)
  | retired (plugin : LoadedPlugin Module Capabilities)

structure Install (Module Capabilities : Type) where
  productGroup : String
  artifact : Bytes
  sig : Bytes
  precompiled : Bool
  nanos : ℕ
  phase : Phase Module Capabilities

namespace Install

variable {Module Capabilities : Type} (x : Install Module Capabilities)

def file : String := artifactName x.productGroup x.precompiled

def staging (i : ℕ) : ℕ × ℕ := (x.nanos, i)

def staged (i : ℕ) : Path := ⟨some (x.staging i), x.file⟩

def stale : Path := live (artifactName x.productGroup !x.precompiled)

end Install

/-- A process serves `plugins`; its installs go by the number the counter gave them. -/
structure Process (Key Module Capabilities : Type) where
  env : Env
  trustedKey : Option Key
  plugins : String → Option (LoadedPlugin Module Capabilities)
  counter : ℕ
  installs : ℕ → Option (Install Module Capabilities)
  answers : List (Except PluginInstallError InstalledPlugin)

structure Node (Key Module Capabilities : Type) where
  disk : Disk
  process : Option (Process Key Module Capabilities)

/-- Where a statement on the file system can fail, `io` says whether it succeeds. -/
inductive Event where
  | boot (env : Env) (listing : List String)
  | stop
  | install (productGroup : String) (artifact sig : Bytes) (precompiled : Bool) (nanos : ℕ)
      (io : Bool)
  | step (i : ℕ) (io : Bool)

variable {Key Module Capabilities : Type} (engine : Engine Key Module Capabilities)

def trustedKeyOf (env : Env) : Except BootError (Option Key) :=
  match (env.pluginSigningKey.map trim).filter (· ≠ "") with
  | none => .ok none
  | some hexKey =>
    match engine.verifyingKey hexKey with
    | some key => .ok (some key)
    | none => .error .invalidSigningKey

def allowsUnsigned (env : Env) : Bool :=
  env.allowUnsignedPlugins.any fun v => eqIgnoreAsciiCase (trim v) "true"

def ensureSigningPolicy (hasKey : Bool) (pluginCount : ℕ) (allowUnsigned : Bool)
    (profile : NodeProfile) : Except BootError Unit :=
  if allowUnsigned && profile ≠ .development then .error (.unsignedRefused profile)
  else if !hasKey && 0 < pluginCount && !allowUnsigned then .error (.unsignedPlugins pluginCount)
  else .ok ()

/-- Registers what was discovered, in the order of the listing: of two artifacts for one product
group the later stays. -/
def registerAll (env : Env) (key : Option Key) (d : Disk) : List (String × String) →
    (String → Option (LoadedPlugin Module Capabilities)) →
    Except BootError (String → Option (LoadedPlugin Module Capabilities))
  | [], plugins => .ok plugins
  | (productGroupKey, file) :: rest, plugins =>
    match fromFile engine env key d (live file) productGroupKey with
    | .ok plugin =>
      registerAll env key d rest (Function.update plugins productGroupKey (some plugin))
    | .error e => .error (.failedToLoad productGroupKey file e)

def boot (env : Env) (d : Disk) (listing : List String) :
    Except BootError (Process Key Module Capabilities) := do
  let key ← trustedKeyOf engine env
  let discovered := discoverPlugins listing
  ensureSigningPolicy key.isSome discovered.length (allowsUnsigned env) env.profile
  let plugins ← registerAll engine env key d discovered fun _ => none
  return ⟨env, key, plugins, 0, fun _ => none, []⟩

def isValidKey (productGroup : String) : Bool :=
  productGroup ≠ "" && productGroup.toList.all fun c =>
    ('a' ≤ c && c ≤ 'z') || ('0' ≤ c && c ≤ '9') || c = '-'

variable {engine}

namespace Process

variable (p : Process Key Module Capabilities)

def answer (a : Except PluginInstallError InstalledPlugin) : Process Key Module Capabilities :=
  { p with answers := p.answers ++ [a] }

/-- `staging_dir_name` draws the number. A product group that cannot be a key, or a plugins
directory that cannot be made, ends the install before that. -/
def install (productGroup : String) (artifact sig : Bytes) (precompiled : Bool) (nanos : ℕ)
    (io : Bool) : Process Key Module Capabilities :=
  if isValidKey productGroup = false then p.answer (.error (.invalidKey productGroup))
  else if io = false then p.answer (.error .persist)
  else { p with
    counter := p.counter + 1
    installs := Function.update p.installs p.counter
      (some ⟨productGroup, artifact, sig, precompiled, nanos, .named⟩) }

def goOn (i : ℕ) (x : Install Module Capabilities) (phase : Phase Module Capabilities) :
    Process Key Module Capabilities :=
  { p with installs := Function.update p.installs i (some { x with phase }) }

def finish (i : ℕ) (a : Except PluginInstallError InstalledPlugin) :
    Process Key Module Capabilities :=
  { p with installs := Function.update p.installs i none, answers := p.answers ++ [a] }

def swap (i : ℕ) (plugin : LoadedPlugin Module Capabilities) (report : InstalledPlugin) :
    Process Key Module Capabilities :=
  { p with
    plugins := Function.update p.plugins plugin.productGroupKey (some plugin)
    installs := Function.update p.installs i none
    answers := p.answers ++ [.ok report] }

end Process

variable (engine)

/-- What is left to write and how the process goes on, one statement of `install_plugin` after the
other. The removals are not checked. -/
def stepInstall (d : Disk) (p : Process Key Module Capabilities) (i : ℕ)
    (x : Install Module Capabilities) (io : Bool) : Disk × Process Key Module Capabilities :=
  match x.phase with
  | .named => if io then (d, p.goOn i x .created) else (d, p.finish i (.error .persist))
  | .created =>
    if io then (d.write (x.staged i) x.artifact, p.goOn i x .written)
    else (d, p.finish i (.error .persist))
  | .written =>
    if io then (d.write (x.staged i).sig x.sig, p.goOn i x .staged)
    else (d, p.finish i (.error .persist))
  | .staged =>
    match vet engine p.env p.trustedKey (d.read (x.staged i).sig) (d.read (x.staged i)) with
    | .ok signatureVerified => (d, p.goOn i x (.vetted signatureVerified))
    | .error e => (d.removeDirAll (x.staging i), p.finish i (.error (.rejected e)))
  | .vetted signatureVerified =>
    match load engine p.trustedKey x.productGroup (isPrecompiled x.file) signatureVerified
      (d.read (x.staged i)) with
    | .ok plugin => (d, p.goOn i x (.loaded plugin))
    | .error e => (d.removeDirAll (x.staging i), p.finish i (.error (.rejected e)))
  | .loaded plugin =>
    match if io then d.rename (x.staged i) (live x.file) else none with
    | some d' => (d', p.goOn i x (.promoted plugin))
    | none => (d.removeDirAll (x.staging i), p.finish i (.error .persist))
  | .promoted plugin =>
    match if io then d.rename (x.staged i).sig (live (sigName x.file)) else none with
    | some d' => (d', p.goOn i x (.paired plugin))
    | none => (d.removeDirAll (x.staging i), p.finish i (.error .persist))
  | .paired plugin =>
    (if io then d.removeDirAll (x.staging i) else d, p.goOn i x (.unstaged plugin))
  | .unstaged plugin => (if io then d.remove x.stale else d, p.goOn i x (.cleared plugin))
  | .cleared plugin => (if io then d.remove x.stale.sig else d, p.goOn i x (.retired plugin))
  | .retired plugin =>
    let abi := engine.abiVersion plugin.capabilities
    (d, p.swap i plugin ⟨x.productGroup, toString abi.1 ++ "." ++ toString abi.2⟩)

def next (s : Node Key Module Capabilities) : Event → Option (Node Key Module Capabilities)
  | .boot env listing =>
    if s.process.isSome ∨ ¬listing.Perm s.disk.listing then none
    else match boot engine env s.disk listing with
      | .ok p => some { s with process := some p }
      | .error _ => some s
  | .stop => s.process.map fun _ => { s with process := none }
  | .install productGroup artifact sig precompiled nanos io =>
    s.process.map fun p =>
      { s with process := some (p.install productGroup artifact sig precompiled nanos io) }
  | .step i io => do
    let p ← s.process
    let x ← p.installs i
    let (disk, p) := stepInstall engine s.disk p i x io
    return ⟨disk, some p⟩

end Nodes

section Reads

variable {d d' : Disk} {path path' source target : Path} {bytes : Bytes} {staging : ℕ × ℕ}

theorem read_write :
    Disk.read (Disk.write d path bytes) path' =
      if path = path' then some bytes else d.read path' := by
  rw [Disk.read, Disk.write, Table.get_write]
  split_ifs <;> rfl

theorem read_remove (h : path ≠ path') : Disk.read (Disk.remove d path) path' = d.read path' := by
  rw [Disk.read, Disk.remove, Table.get_delete, Disk.read]
  cases hget : Table.get d path' with
  | none => rfl
  | some f =>
    have hpath : f.path = path' := Table.key_of_get hget
    rw [Option.filter_some_pos (by simpa [hpath] using h.symm)]

theorem read_removeDirAll (h : path.staging ≠ some staging) :
    Disk.read (Disk.removeDirAll d staging) path = d.read path := by
  rw [Disk.read, Disk.removeDirAll, Table.get_delete, Disk.read]
  cases hget : Table.get d path with
  | none => rfl
  | some f =>
    have hpath : f.path = path := Table.key_of_get hget
    rw [Option.filter_some_pos (by simpa [hpath] using h)]

theorem read_rename (h : Disk.rename d source target = some d') (hsource : path ≠ source)
    (htarget : path ≠ target) : d'.read path = d.read path := by
  obtain ⟨bytes, -, rfl⟩ := Option.map_eq_some_iff.mp h
  rw [read_write, if_neg htarget.symm, read_remove hsource.symm]

end Reads

section Vetting

variable {Key Module Capabilities : Type} {engine : Engine Key Module Capabilities} {env : Env}
  {key : Option Key} {d : Disk} {group : String} {plugin : LoadedPlugin Module Capabilities}

/-- What lets an artifact in: the trusted key's signature, or a developer's word for a portable
one. -/
def LetIn (engine : Engine Key Module Capabilities) (env : Env) (key : Option Key)
    (precompiled : Bool) (artifact : Bytes) : Prop :=
  match key with
  | some key => ∃ signature, engine.verify key (engine.sha256 artifact) signature = true
  | none => precompiled = false ∧ unsignedAllowed env.allowUnsignedPlugins = true

/-- The plugin is what an artifact that was let in is loaded as, under the product group's key. -/
structure Vetted (engine : Engine Key Module Capabilities) (env : Env) (key : Option Key)
    (group : String) (plugin : LoadedPlugin Module Capabilities) : Prop where
  group : plugin.productGroupKey = group
  compatible : engine.isCompatible plugin.capabilities = true
  verified : plugin.signatureVerified = key.isSome
  source : ∃ precompiled artifact, LetIn engine env key precompiled artifact ∧
    (if precompiled then engine.deserialize artifact else engine.compile artifact) =
      some plugin.module

theorem verifyPluginSignature_ok {sig artifact : Option Bytes} {key : Key} {u : Unit}
    (h : verifyPluginSignature engine sig artifact key = .ok u) :
    ∃ bytes ∈ artifact, ∃ signature, engine.verify key (engine.sha256 bytes) signature = true := by
  unfold verifyPluginSignature at h
  split at h
  · cases h
  · cases h
  next raw bytes =>
    split at h
    · cases h
    next signature _ =>
      split_ifs at h with hlength hverify
      exact ⟨bytes, rfl, signature, hverify⟩

theorem vet_ok {sig artifact : Option Bytes} {verified : Bool}
    (h : vet engine env key sig artifact = .ok verified) : verified = key.isSome ∧
      ∀ precompiled bytes, artifact = some bytes → (precompiled = true → key.isSome) →
        LetIn engine env key precompiled bytes := by
  unfold vet at h
  cases key with
  | none =>
    dsimp only at h
    split_ifs at h with hallowed
    cases h
    exact ⟨rfl, fun precompiled bytes _ hkey => ⟨by simpa using hkey, hallowed⟩⟩
  | some key =>
    dsimp only at h
    cases hverify : verifyPluginSignature engine sig artifact key with
    | error e =>
      rw [hverify] at h
      cases h
    | ok u =>
      rw [hverify] at h
      cases h
      obtain ⟨bytes, hbytes, hsignature⟩ := verifyPluginSignature_ok hverify
      refine ⟨rfl, fun precompiled bytes' hbytes' _ => ?_⟩
      cases hbytes.symm.trans hbytes'
      exact hsignature

theorem load_ok {precompiled verified : Bool} {artifact : Option Bytes}
    (h : load engine key group precompiled verified artifact = .ok plugin) :
    plugin.productGroupKey = group ∧ plugin.signatureVerified = verified ∧
      engine.isCompatible plugin.capabilities = true ∧ (precompiled = true → key.isSome) ∧
      ∃ bytes, artifact = some bytes ∧
        (if precompiled then engine.deserialize bytes else engine.compile bytes) =
          some plugin.module := by
  unfold load at h
  by_cases hnative : (precompiled && key.isNone) = true
  · rw [if_pos hnative] at h
    cases h
  rw [if_neg hnative] at h
  split at h
  · cases h
  next bytes =>
    split at h
    · cases h
    next module hmodule =>
      split at h
      · cases h
      next described _ =>
        dsimp only at h
        split_ifs at h with hcompatible
        cases h
        refine ⟨rfl, rfl, hcompatible, ?_, bytes, rfl, hmodule⟩
        intro hprecompiled
        simpa [hprecompiled, Option.isSome_iff_ne_none] using hnative

/-- What is vetted and loaded from the same bytes. -/
theorem vetted_of_loaded {precompiled verified : Bool} {sig artifact : Option Bytes}
    (hvet : vet engine env key sig artifact = .ok verified)
    (hload : load engine key group precompiled verified artifact = .ok plugin) :
    Vetted engine env key group plugin := by
  obtain ⟨hverified, hin⟩ := vet_ok hvet
  obtain ⟨hgroup, hsaid, hcompatible, hnative, bytes, hbytes, hmodule⟩ := load_ok hload
  exact ⟨hgroup, hcompatible, hsaid.trans hverified,
    precompiled, bytes, hin precompiled bytes hbytes hnative, hmodule⟩

theorem fromFile_vetted {path : Path} (h : fromFile engine env key d path group = .ok plugin) :
    Vetted engine env key group plugin := by
  obtain ⟨verified, hvet, hload⟩ := bind_ok h
  exact vetted_of_loaded hvet hload

def AllVetted (engine : Engine Key Module Capabilities) (env : Env) (key : Option Key)
    (plugins : String → Option (LoadedPlugin Module Capabilities)) : Prop :=
  ∀ group plugin, plugins group = some plugin → Vetted engine env key group plugin

theorem AllVetted.update {plugins : String → Option (LoadedPlugin Module Capabilities)}
    (h : AllVetted engine env key plugins) (hplugin : Vetted engine env key group plugin) :
    AllVetted engine env key (Function.update plugins group (some plugin)) := by
  intro group' plugin' hget
  by_cases hsame : group' = group
  · subst hsame
    rw [Function.update_self] at hget
    cases hget
    exact hplugin
  · rw [Function.update_of_ne hsame] at hget
    exact h group' plugin' hget

theorem registerAll_vetted {discovered : List (String × String)}
    {plugins plugins' : String → Option (LoadedPlugin Module Capabilities)}
    (hplugins : AllVetted engine env key plugins)
    (h : registerAll engine env key d discovered plugins = .ok plugins') :
    AllVetted engine env key plugins' := by
  induction discovered generalizing plugins with
  | nil =>
    cases h
    exact hplugins
  | cons entry rest ih =>
    obtain ⟨group, file⟩ := entry
    unfold registerAll at h
    split at h
    next plugin hfile => exact ih (hplugins.update (fromFile_vetted hfile)) h
    · cases h

end Vetting

section Installs

variable {Key Module Capabilities : Type} {engine : Engine Key Module Capabilities} {env : Env}
  {key : Option Key} {d d' : Disk} {p q : Process Key Module Capabilities} {i : ℕ}
  {x : Install Module Capabilities} {plugin : LoadedPlugin Module Capabilities}

def Install.Sound (engine : Engine Key Module Capabilities) (env : Env) (key : Option Key)
    (d : Disk) (i : ℕ) (x : Install Module Capabilities) : Prop :=
  match x.phase with
  | .named | .created => True
  | .written => d.read (x.staged i) = some x.artifact
  | .staged => d.read (x.staged i) = some x.artifact ∧ d.read (x.staged i).sig = some x.sig
  | .vetted verified => d.read (x.staged i) = some x.artifact ∧
      vet engine env key (some x.sig) (some x.artifact) = .ok verified
  | .loaded plugin | .promoted plugin | .paired plugin | .unstaged plugin | .cleared plugin
  | .retired plugin => Vetted engine env key x.productGroup plugin

theorem Install.Sound.of_reads (h : x.Sound engine env key d i)
    (hread : ∀ file, Disk.read d' ⟨some (x.staging i), file⟩ = d.read ⟨some (x.staging i), file⟩) :
    x.Sound engine env key d' i := by
  have hartifact : d'.read (x.staged i) = d.read (x.staged i) := hread _
  have hsig : d'.read (x.staged i).sig = d.read (x.staged i).sig := hread _
  unfold Install.Sound at h ⊢
  rw [hartifact, hsig]
  exact h

structure Goes (engine : Engine Key Module Capabilities) (p q : Process Key Module Capabilities)
    (d' : Disk) (i : ℕ) : Prop where
  env : q.env = p.env
  trustedKey : q.trustedKey = p.trustedKey
  counter : q.counter = p.counter
  others : ∀ j ≠ i, q.installs j = p.installs j
  sound : ∀ y, q.installs i = some y → y.Sound engine p.env p.trustedKey d' i
  plugins : AllVetted engine p.env p.trustedKey p.plugins →
    AllVetted engine p.env p.trustedKey q.plugins

theorem goes_goOn {phase : Phase Module Capabilities}
    (h : Install.Sound engine p.env p.trustedKey d' i { x with phase }) :
    Goes engine p (p.goOn i x phase) d' i := by
  refine ⟨rfl, rfl, rfl, fun j hj => Function.update_of_ne hj _ _, fun y hy => ?_, id⟩
  change Function.update p.installs i _ i = some y at hy
  rw [Function.update_self] at hy
  cases hy
  exact h

theorem goes_finish {a : Except PluginInstallError InstalledPlugin} :
    Goes engine p (p.finish i a) d' i := by
  refine ⟨rfl, rfl, rfl, fun j hj => Function.update_of_ne hj _ _, fun y hy => ?_, id⟩
  change Function.update p.installs i none i = some y at hy
  rw [Function.update_self] at hy
  cases hy

theorem goes_swap {report : InstalledPlugin}
    (h : Vetted engine p.env p.trustedKey x.productGroup plugin) :
    Goes engine p (p.swap i plugin report) d' i := by
  refine ⟨rfl, rfl, rfl, fun j hj => Function.update_of_ne hj _ _, fun y hy => ?_, fun hall => ?_⟩
  · change Function.update p.installs i none i = some y at hy
    rw [Function.update_self] at hy
    cases hy
  · rw [← h.group] at h
    exact hall.update h

theorem sig_ne (path : Path) : path.sig ≠ path := by
  intro h
  have hlength := congrArg (fun q : Path => q.file.length) h
  simp [Path.sig, sigName] at hlength

theorem stepInstall_goes {io : Bool} (h : x.Sound engine p.env p.trustedKey d i) :
    Goes engine p (stepInstall engine d p i x io).2 (stepInstall engine d p i x io).1 i := by
  unfold Install.Sound at h
  unfold stepInstall
  cases hphase : x.phase with
  | named =>
    dsimp only
    split_ifs
    · exact goes_goOn trivial
    · exact goes_finish
  | created =>
    dsimp only
    split_ifs
    · refine goes_goOn ?_
      exact read_write.trans (if_pos rfl)
    · exact goes_finish
  | written =>
    rw [hphase] at h
    dsimp only
    split_ifs
    · refine goes_goOn ⟨?_, read_write.trans (if_pos rfl)⟩
      exact (read_write.trans (if_neg (sig_ne _))).trans h
    · exact goes_finish
  | staged =>
    rw [hphase] at h
    dsimp only
    split
    next verified hvet =>
      refine goes_goOn ⟨h.1, ?_⟩
      rwa [h.1, h.2] at hvet
    · exact goes_finish
  | vetted verified =>
    rw [hphase] at h
    dsimp only
    split
    next plugin hload =>
      rw [h.1] at hload
      exact goes_goOn (vetted_of_loaded h.2 hload)
    · exact goes_finish
  | loaded plugin =>
    rw [hphase] at h
    dsimp only
    split
    · exact goes_goOn h
    · exact goes_finish
  | promoted plugin =>
    rw [hphase] at h
    dsimp only
    split
    · exact goes_goOn h
    · exact goes_finish
  | paired plugin =>
    rw [hphase] at h
    exact goes_goOn h
  | unstaged plugin =>
    rw [hphase] at h
    exact goes_goOn h
  | cleared plugin =>
    rw [hphase] at h
    exact goes_goOn h
  | retired plugin =>
    rw [hphase] at h
    exact goes_swap h

/-- An install writes in its own staging directory and in the plugins directory. -/
theorem stepInstall_read {io : Bool} {path : Path} {nanos j : ℕ}
    (hpath : path.staging = some (nanos, j)) (hne : j ≠ i) :
    (stepInstall engine d p i x io).1.read path = d.read path := by
  have hstaged {q : Path} (hq : q.staging = some (x.staging i) ∨ q.staging = none) : path ≠ q := by
    rintro rfl
    rcases hq with hq | hq <;> rw [hpath] at hq <;> cases hq
    exact hne rfl
  have hartifact : path ≠ x.staged i := hstaged (.inl rfl)
  have hsig : path ≠ (x.staged i).sig := hstaged (.inl rfl)
  have hlive (file : String) : path ≠ live file := hstaged (.inr rfl)
  have hstale : path ≠ x.stale.sig := hstaged (.inr rfl)
  have hdir : path.staging ≠ some (x.staging i) := by
    rw [hpath]
    rintro ⟨⟩
    exact hne rfl
  unfold stepInstall
  cases x.phase with
  | named => dsimp only; split_ifs <;> rfl
  | created =>
    dsimp only
    split_ifs
    · exact read_write.trans (if_neg hartifact.symm)
    · rfl
  | written =>
    dsimp only
    split_ifs
    · exact read_write.trans (if_neg hsig.symm)
    · rfl
  | staged =>
    dsimp only
    split
    · rfl
    · exact read_removeDirAll hdir
  | vetted verified =>
    dsimp only
    split
    · rfl
    · exact read_removeDirAll hdir
  | loaded plugin =>
    dsimp only
    split
    next d' hrename =>
      split_ifs at hrename
      exact read_rename hrename hartifact (hlive _)
    · exact read_removeDirAll hdir
  | promoted plugin =>
    dsimp only
    split
    next d' hrename =>
      split_ifs at hrename
      exact read_rename hrename hsig (hlive _)
    · exact read_removeDirAll hdir
  | paired plugin =>
    dsimp only
    split_ifs
    · exact read_removeDirAll hdir
    · rfl
  | unstaged plugin =>
    dsimp only
    split_ifs
    · exact read_remove (hlive _).symm
    · rfl
  | cleared plugin =>
    dsimp only
    split_ifs
    · exact read_remove hstale.symm
    · rfl
  | retired plugin => rfl

end Installs

section Runs

variable {Key Module Capabilities : Type} {engine : Engine Key Module Capabilities} {env : Env}
  {d : Disk} {p : Process Key Module Capabilities} {s t : Node Key Module Capabilities} {e : Event}
  {es : List Event}

theorem trim_eq_self {text : String} (h : ∀ c ∈ text.toList, isWhitespace c = false) :
    trim text = text := by
  have hfront : text.toList.dropWhile isWhitespace = text.toList := by
    rw [List.dropWhile_eq_self_iff]
    intro hpos
    simp [h _ (List.getElem_mem hpos)]
  have hback : text.toList.reverse.dropWhile isWhitespace = text.toList.reverse := by
    rw [List.dropWhile_eq_self_iff]
    intro hpos
    rw [h _ (List.mem_reverse.mp (List.getElem_mem hpos))]
    exact Bool.false_ne_true
  rw [trim, hfront, hback, List.reverse_reverse, String.ofList_toList]

theorem toLower_of_isWhitespace {c : Char} (h : isWhitespace c = true) : c.toLower = c := by
  unfold Char.toLower
  refine dif_neg fun hupper => ?_
  have hlow : 65 ≤ c.toNat := hupper.1
  have hhigh : c.toNat ≤ 90 := hupper.2
  simp only [isWhitespace, Bool.or_eq_true, Bool.and_eq_true, decide_eq_true_eq] at h
  omega

/-- The variable is read in two places, and only one trims it. -/
theorem allowsUnsigned_of_unsignedAllowed (h : unsignedAllowed env.allowUnsignedPlugins = true) :
    allowsUnsigned env = true := by
  obtain ⟨v, hv, htrue⟩ := (Option.any_eq_true _ _).mp h
  have hletters : v.toList.map Char.toLower = ['t', 'r', 'u', 'e'] := by
    simpa [eqIgnoreAsciiCase] using htrue
  have htrim : trim v = v := by
    refine trim_eq_self fun c hc => ?_
    cases hwhite : isWhitespace c with
    | false => rfl
    | true =>
      have hmem : c.toLower ∈ v.toList.map Char.toLower := List.mem_map_of_mem hc
      rw [toLower_of_isWhitespace hwhite, hletters] at hmem
      simp only [List.mem_cons, List.not_mem_nil, or_false] at hmem
      rcases hmem with rfl | rfl | rfl | rfl <;> exact absurd hwhite (by decide)
  unfold allowsUnsigned
  rw [hv, Option.any_some, htrim]
  exact htrue

structure Guarded (engine : Engine Key Module Capabilities) (p : Process Key Module Capabilities) :
    Prop where
  trustedKey : trustedKeyOf engine p.env = .ok p.trustedKey
  policy : unsignedAllowed p.env.allowUnsignedPlugins = true → p.env.profile = .development
  plugins : AllVetted engine p.env p.trustedKey p.plugins

theorem boot_guarded {listing : List String} (h : boot engine env d listing = .ok p) :
    Guarded engine p ∧ p.installs = fun _ => none := by
  obtain ⟨key, hkey, h⟩ := bind_ok h
  obtain ⟨_, hpolicy, h⟩ := bind_ok h
  obtain ⟨plugins, hplugins, h⟩ := bind_ok h
  cases h
  refine ⟨⟨hkey, fun hallowed => ?_, ?_⟩, rfl⟩
  · unfold ensureSigningPolicy at hpolicy
    rw [allowsUnsigned_of_unsignedAllowed hallowed] at hpolicy
    by_contra hprofile
    rw [if_pos (by simpa using hprofile)] at hpolicy
    cases hpolicy
  · exact registerAll_vetted (fun _ _ hnone => by cases hnone) hplugins

structure Inv (engine : Engine Key Module Capabilities) (d : Disk)
    (p : Process Key Module Capabilities) : Prop where
  guarded : Guarded engine p
  numbered : ∀ i x, p.installs i = some x → i < p.counter
  sound : ∀ i x, p.installs i = some x → x.Sound engine p.env p.trustedKey d i

theorem Inv.goes {q : Process Key Module Capabilities} {d' : Disk} {i : ℕ}
    (h : Inv engine d p) (hgoes : Goes engine p q d' i) (hi : i < p.counter)
    (hread : ∀ path nanos j, Path.staging path = some (nanos, j) → j ≠ i →
      Disk.read d' path = d.read path) : Inv engine d' q := by
  refine ⟨⟨?_, ?_, ?_⟩, fun j y hy => ?_, fun j y hy => ?_⟩
  · rw [hgoes.env, hgoes.trustedKey]
    exact h.guarded.trustedKey
  · rw [hgoes.env]
    exact h.guarded.policy
  · rw [hgoes.env, hgoes.trustedKey]
    exact hgoes.plugins h.guarded.plugins
  · rw [hgoes.counter]
    by_cases hj : j = i
    · exact hj ▸ hi
    · exact h.numbered j y (hgoes.others j hj ▸ hy)
  · rw [hgoes.env, hgoes.trustedKey]
    by_cases hj : j = i
    · subst hj
      exact hgoes.sound y hy
    · exact (h.sound j y (hgoes.others j hj ▸ hy)).of_reads fun file =>
        hread _ _ _ rfl hj

theorem Inv.install {group : String} {artifact sig : Bytes} {precompiled io : Bool} {nanos : ℕ}
    (h : Inv engine d p) : Inv engine d (p.install group artifact sig precompiled nanos io) := by
  unfold Process.install
  split_ifs
  · exact ⟨⟨h.guarded.trustedKey, h.guarded.policy, h.guarded.plugins⟩, h.numbered, h.sound⟩
  · exact ⟨⟨h.guarded.trustedKey, h.guarded.policy, h.guarded.plugins⟩, h.numbered, h.sound⟩
  · refine ⟨⟨h.guarded.trustedKey, h.guarded.policy, h.guarded.plugins⟩, fun j y hy => ?_,
      fun j y hy => ?_⟩
    · by_cases hj : j = p.counter
      · exact hj ▸ Nat.lt_succ_self _
      · dsimp only at hy
        rw [Function.update_of_ne hj] at hy
        exact Nat.lt_succ_of_lt (h.numbered j y hy)
    · by_cases hj : j = p.counter
      · subst hj
        dsimp only at hy
        rw [Function.update_self] at hy
        cases hy
        trivial
      · dsimp only at hy
        rw [Function.update_of_ne hj] at hy
        exact h.sound j y hy

theorem inv_next (hi : ∀ p, s.process = some p → Inv engine s.disk p)
    (h : next engine s e = some t) : ∀ p, t.process = some p → Inv engine t.disk p := by
  intro q hq
  cases e with
  | boot env listing =>
    simp only [next] at h
    split_ifs at h
    split at h
    next p hboot =>
      cases h
      cases hq
      obtain ⟨hguarded, hnone⟩ := boot_guarded hboot
      refine ⟨hguarded, fun i x hx => ?_, fun i x hx => ?_⟩ <;> rw [hnone] at hx <;> cases hx
    · cases h
      exact hi q hq
  | stop =>
    obtain ⟨p, -, rfl⟩ := Option.map_eq_some_iff.mp h
    cases hq
  | install group artifact sig precompiled nanos io =>
    obtain ⟨p, hp, rfl⟩ := Option.map_eq_some_iff.mp h
    cases hq
    exact (hi p hp).install
  | step i io =>
    obtain ⟨p, hp, h⟩ := Option.bind_eq_some_iff.mp h
    obtain ⟨x, hx, h⟩ := Option.bind_eq_some_iff.mp h
    cases h
    cases hq
    have hinv := hi p hp
    exact hinv.goes (stepInstall_goes (hinv.sound i x hx)) (hinv.numbered i x hx)
      fun path nanos j hpath hj => stepInstall_read hpath hj

/-- However installs interleave and wherever the process stops, a plugin that is served was vetted
under the key of the running process, from the very bytes it was loaded from; with no key there are
plugins in development alone. -/
theorem served_plugins_are_vetted (h : run (next engine) ⟨d, none⟩ es = some s)
    (hp : s.process = some p) : AllVetted engine p.env p.trustedKey p.plugins ∧
      trustedKeyOf engine p.env = .ok p.trustedKey ∧
      ((∃ group, (p.plugins group).isSome) → p.trustedKey = none →
        p.env.profile = .development) := by
  have hinv := reachable_invariant
    (fun u e v (hu : ∀ p, u.process = some p → Inv engine u.disk p) hnext => inv_next hu hnext)
    (fun p hnone => by cases hnone) h p hp
  refine ⟨hinv.guarded.plugins, hinv.guarded.trustedKey, ?_⟩
  rintro ⟨group, hserved⟩ hnone
  obtain ⟨plugin, hplugin⟩ := Option.isSome_iff_exists.mp hserved
  obtain ⟨_, _, hin, -⟩ := (hinv.guarded.plugins group plugin hplugin).source
  rw [hnone] at hin
  exact hinv.guarded.policy hin.2

/-- A key is its byte, and signs by repeating it. -/
def sampleEngine : Engine UInt8 Bytes Unit where
  verifyingKey _ := some 7
  sha256 := id
  verify key _ signature := signature = List.replicate 64 key
  fromUtf8Lossy _ := ""
  base64Decode _ := none
  deserialize := some
  compile := some
  describe _ := some none
  hostDefaults := ()
  isCompatible _ := true
  abiVersion _ := (1, 0)

/-- A node with nothing installed takes a plugin in, beside one that nobody signed, stops, and
finds it at the next boot. -/
def installedOnce : List Event :=
  let env : Env := ⟨some "07", none, .production⟩
  .boot env [] :: .install "toys" [1] (List.replicate 64 7) false 5 true ::
    .install "steel" [2] (List.replicate 64 8) true 5 true ::
    ((List.replicate 4 [.step 0 true, .step 1 true]).flatten ++ List.replicate 7 (.step 0 true) ++
      [.stop, .boot env ["product-group-toys.wasm.sig", "product-group-toys.wasm"]])

theorem installed_plugin_is_served : ∃ s p, run (next sampleEngine) ⟨Table.empty, none⟩
    installedOnce = some s ∧ s.process = some p ∧ (p.plugins "toys").isSome ∧
      AllVetted sampleEngine p.env p.trustedKey p.plugins := by
  have hrun : ((run (next sampleEngine) ⟨Table.empty, none⟩ installedOnce).bind
      Node.process).any (fun p => (p.plugins "toys").isSome) = true := by decide +kernel
  obtain ⟨p, hp, hserved⟩ := (Option.any_eq_true _ _).mp hrun
  obtain ⟨s, hs, hprocess⟩ := Option.bind_eq_some_iff.mp hp
  exact ⟨s, p, hs, hprocess, hserved, (served_plugins_are_vetted hs hprocess).1⟩

end Runs

end PluginInstalls
