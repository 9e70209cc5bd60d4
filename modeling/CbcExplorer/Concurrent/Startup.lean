import CbcExplorer.Concurrent.Effects
import CbcExplorer.Concurrent.Bootstrap
import CbcExplorer.Cbc.InitSpec
import CbcExplorer.Service.Service

set_option autoImplicit false

namespace CbcExplorer

open Relation Prog

def ExplorerWrite (_ : Int) (modules rawData : String) : Prop :=
  modules = insertModules ∧ Go.hasPrefix rawData "0x" = true

def ExplorerRegistration (_ : Int) (raw : String) : Prop := Go.hasPrefix raw "0x" = true

def ExplorerRow (r : RuntimeVersionRecord) : Prop :=
  (r.modules = "" ∧ r.rawData = "") ∨
    (r.modules = insertModules ∧ Go.hasPrefix r.rawData "0x" = true)

def StartupResult (result : Except String Unit) (head : Option (Int × String)) : Prop :=
  (result = .ok () → ∃ spec raw, head = some (spec, raw) ∧ Go.hasPrefix raw "0x" = true) ∧
    ∀ err, result = .error err → err = "Can not find chain metadata, please check network"

section Rows

variable {s : Store} (initial : Store)

def RowsFrom (s : Store) : Prop := ∀ r ∈ s.rows, r ∈ initial.rows ∨ ExplorerRow r

theorem RowsFrom.createRuntimeVersion (rows : RowsFrom initial s) (name : String) (v b : Int) :
    RowsFrom initial (s.createRuntimeVersion name v b).2 := by
  unfold Store.createRuntimeVersion
  split
  · exact rows
  · intro r member
    simp only [List.mem_append, List.mem_singleton] at member
    rcases member with member | rfl
    · exact rows r member
    · exact .inr (.inl ⟨rfl, rfl⟩)

theorem RowsFrom.setRuntimeData (rows : RowsFrom initial s) {v : Int} {m d : String}
    (allowed : ExplorerWrite v m d) : RowsFrom initial (s.setRuntimeData v m d).2 := by
  intro r member
  simp only [Store.setRuntimeData, List.mem_map] at member
  obtain ⟨r', mem', rfl⟩ := member
  split
  · exact .inr (.inr allowed)
  · exact rows r' mem'

end Rows

section Programs

variable {Write : Int → String → String → Prop} {Reg : Int → String → Prop}
  {head : Option (Int × String)}

namespace CBCInitializer

variable (c : CBCInitializer)

@[simp] theorem safe_retryPause {P : Unit → Option (Int × String) → Prop} (what : String)
    (i : Nat) : Safe Write Reg P (c.retryPause what i) head ↔ P () head := by
  unfold CBCInitializer.retryPause
  split <;> simp [safe_bind]

@[simp] theorem safe_makeRPCCall {P : Except String RPCResponse → Option (Int × String) → Prop}
    (req : RPCRequest) :
    Safe Write Reg P (c.makeRPCCall req) head ↔ ∀ answer, P (readAnswer answer) head := by
  simp [CBCInitializer.makeRPCCall, safe_bind]

theorem fetchLoop_safe {α : Type} (what : String) (req : RPCRequest)
    (decode : RPCResponse → Except String α)
    {P : Except String α → Option (Int × String) → Prop}
    (post : ∀ r, (∀ a, r = .ok a → ∃ answer, (readAnswer answer).bind decode = .ok a) →
      P r head)
    (fuel i : Nat) (lastErr : Option String) :
    Safe Write Reg P (c.fetchLoop what req decode fuel i lastErr) head := by
  induction fuel generalizing i lastErr with
  | zero => exact post _ fun _ failed => by cases failed
  | succ fuel ih =>
    simp only [CBCInitializer.fetchLoop, safe_bind, safe_retryPause, safe_makeRPCCall]
    intro answer
    split
    · next a decoded => exact post _ fun a' same => ⟨answer, by cases same; exact decoded⟩
    · exact ih _ _

theorem writeRuntimeVersion_safe {P : Except String Unit → Option (Int × String) → Prop}
    (version : RuntimeVersion) {metadataHex : String} (hex : Go.hasPrefix metadataHex "0x" = true)
    (post : ∀ r, P r head) :
    Safe ExplorerWrite Reg P (writeRuntimeVersion version metadataHex) head := by
  simp only [writeRuntimeVersion, safe_bind, safe_create, safe_info, safe_setData, safe_recent]
  refine fun _ => ⟨⟨rfl, hex⟩, fun _ r => ?_⟩
  split
  · exact post _
  · split <;> simp [safe_bind, post]

theorem insertRuntimeVersion_safe {P : Except String Unit → Option (Int × String) → Prop}
    (version : RuntimeVersion) {metadataHex : String} (hex : Go.hasPrefix metadataHex "0x" = true)
    (post : ∀ r, P r head) :
    Safe ExplorerWrite Reg P (insertRuntimeVersion version metadataHex) head := by
  simp only [insertRuntimeVersion, safe_bind, safe_info, safe_recent]
  intro r
  split
  · exact writeRuntimeVersion_safe version hex post
  · split
    · simp [safe_bind, post]
    · exact writeRuntimeVersion_safe version hex post

theorem bootstrap_safe {P : Except String Unit → Option (Int × String) → Prop}
    (post : ∀ r head, P r head) : Safe ExplorerWrite ExplorerRegistration P c.bootstrap head := by
  simp only [bootstrap, safe_bind, safe_info]
  refine safe_check (c.fetchLoop_safe _ _ _
    (fun _ _ => ⟨fun _ _ => post _ _, fun version _ => ?_⟩) _ _ _)
  simp only [safe_bind, safe_info]
  refine safe_check (c.fetchLoop_safe _ _ _ (fun r fetched => ⟨fun _ _ => post _ _,
    fun metadataHex ok => ?_⟩) _ _ _)
  obtain ⟨answer, decoded⟩ := fetched metadataHex ok
  have hex := decodeMetadata_prefix decoded
  simp only [safe_bind, safe_info]
  refine safe_check (insertRuntimeVersion_safe version hex fun _ => ⟨fun _ _ => post _ _,
    fun _ _ => ?_⟩)
  simp [safe_bind, hex, ExplorerRegistration, post]

theorem Initialize_safe {P : Except String Unit → Option (Int × String) → Prop}
    (post : ∀ r head, P r head) :
    Safe ExplorerWrite ExplorerRegistration P c.Initialize head := by
  simp only [Initialize, safe_bind, safe_info, safe_recent]
  intro recent
  split
  · exact c.bootstrap_safe post
  · split
    · simp [safe_bind, post]
    · exact c.bootstrap_safe post

theorem verifyDCFFinality_safe {P : Except String Unit → Option (Int × String) → Prop}
    (post : ∀ r head, P r head) : Safe Write Reg P c.verifyDCFFinality head := by
  simp only [verifyDCFFinality, safe_bind, safe_info]
  refine safe_check ((c.safe_makeRPCCall _).mpr fun _ => ⟨fun _ _ => post _ _, fun _ _ => ?_⟩)
  refine safe_check ⟨fun _ _ => post _ _, fun _ _ => ?_⟩
  refine safe_check ((c.safe_makeRPCCall _).mpr fun _ => ⟨fun _ _ => post _ _, fun _ _ => ?_⟩)
  refine safe_check ⟨fun _ _ => post _ _, fun _ _ => ?_⟩
  simp only [safe_bind, safe_info]
  split <;> simp [safe_bind, post]

end CBCInitializer

namespace Service

@[simp] theorem safe_regCodecMetadata {P : String → Option (Int × String) → Prop} :
    Safe Write Reg P regCodecMetadata head ↔ ∀ raw, P raw head := Iff.rfl

theorem safe_latest_ok {spec : Int} {raw : String} (hex : Go.hasPrefix raw "0x" = true) :
    Safe Write ExplorerRegistration StartupResult (latest spec raw >>= fun _ => Pure.pure (.ok ()))
      head :=
  ⟨hex, fun _ => ⟨_, _, rfl, hex⟩, fun _ failed => nomatch failed⟩

theorem codecLoop_safe (fuel i : Nat) (raw : String) :
    Safe Write ExplorerRegistration StartupResult (codecLoop fuel i raw) head := by
  induction fuel generalizing i raw head with
  | zero => simp [codecLoop, safe_bind, StartupResult]
  | succ fuel ih =>
    simp only [codecLoop, safe_bind, safe_regCodecMetadata]
    intro raw
    split
    · next hex => exact safe_latest_ok hex
    · simpa [safe_bind] using ih _ _

theorem initSubRuntimeLatest_safe :
    Safe Write ExplorerRegistration StartupResult initSubRuntimeLatest head := by
  simp only [initSubRuntimeLatest, safe_bind, safe_recent]
  intro recent
  split
  · exact codecLoop_safe 3 0 ""
  · split
    · next hex => exact safe_latest_ok hex
    · exact codecLoop_safe 3 0 ""

theorem initSubRuntimeLatestWithoutFetch_safe :
    Safe Write ExplorerRegistration StartupResult initSubRuntimeLatestWithoutFetch head := by
  simp only [initSubRuntimeLatestWithoutFetch, fallBack, safe_bind, safe_recent, safe_warning]
  intro recent
  split
  · exact initSubRuntimeLatest_safe
  · split
    · next hex => exact (safe_bind _ _ _ _).mpr ((safe_info _).mpr (safe_latest_ok hex))
    · exact initSubRuntimeLatest_safe

theorem initCBCChain_safe {P : Except String Unit → Option (Int × String) → Prop}
    (networkNode wsEndPoint : String) (post : ∀ r head, P r head) :
    Safe ExplorerWrite ExplorerRegistration P (initCBCChain networkNode wsEndPoint) head := by
  simp only [initCBCChain, safe_bind, safe_info]
  split
  · simp [safe_bind, post]
  · simp only [safe_bind, safe_info]
    refine safe_check ((newCBCInitializer wsEndPoint).Initialize_safe fun _ _ =>
      ⟨fun _ _ => post _ _, fun _ _ => ?_⟩)
    refine (safe_bind _ _ _ _).mpr
      ((newCBCInitializer wsEndPoint).verifyDCFFinality_safe fun r _ => ?_)
    cases r <;> simp [safe_bind, post]

theorem new_safe (networkNode wsEndPoint : String) :
    Safe ExplorerWrite ExplorerRegistration StartupResult (new networkNode wsEndPoint) head := by
  simp only [new, safe_bind]
  refine initCBCChain_safe networkNode wsEndPoint fun r _ => ?_
  cases r with
  | error err => simpa [safe_bind] using initSubRuntimeLatest_safe
  | ok u => exact initSubRuntimeLatestWithoutFetch_safe

end Service

end Programs

def startups (store : Store) (services : List (String × String)) : Sys (Except String Unit) :=
  ⟨store, 0, services.map fun service => { prog := Service.new service.1 service.2 }⟩

theorem concurrent_startups_safe (env : Env) (store : Store) (services : List (String × String)) :
    (∀ sys, ReflTransGen (Sys.Step env) (startups store services) sys →
      (∀ r ∈ sys.store.rows, r ∈ store.rows ∨ ExplorerRow r) ∧
      (∀ p ∈ sys.procs, ∀ e ∈ p.registry, Go.hasPrefix e.2 "0x" = true) ∧
      ((∀ sys', ¬ Sys.Step env sys sys') →
        ∀ p ∈ sys.procs, ∃ a, p.prog = .pure a ∧ StartupResult a p.registry.head?)) ∧
    WellFounded fun sys' sys : Sys (Except String Unit) => Sys.Step env sys sys' := by
  have start :
      (startups store services).AllSafe ExplorerWrite ExplorerRegistration StartupResult := by
    intro p mem
    simp only [startups, List.mem_map] at mem
    obtain ⟨service, -, rfl⟩ := mem
    exact ⟨Service.new_safe service.1 service.2, nofun⟩
  refine ⟨fun sys run => ?_, Sys.step_wf⟩
  obtain ⟨safe, rows⟩ := Sys.AllSafe.reachable (I := RowsFrom store)
    (fun _ n v b rows => rows.createRuntimeVersion store n v b)
    (fun _ _ _ _ allowed rows => rows.setRuntimeData store allowed) run start fun r mem => .inl mem
  refine ⟨rows, fun p mem e registered => (safe p mem).2 e registered, fun stuck p mem => ?_⟩
  obtain ⟨a, returned⟩ := Sys.finished_of_stuck stuck p mem
  exact ⟨a, returned, safe.returned mem returned⟩

section Healthy

variable {env : Env} {Rely : Store → Store → Prop} {s : Store} {head : Option (Int × String)}

theorem CBCInitializer.verifyDCFFinality_guarded (c : CBCInitializer)
    {Post : Except String Unit → Store → Option (Int × String) → Prop}
    (done : ∀ r, Post r s head) :
    Guarded env Rely Post c.verifyDCFFinality s head := by
  simp only [CBCInitializer.verifyDCFFinality, CBCInitializer.makeRPCCall, Prog.check,
    guarded_bind, guarded_info, guarded_post, guarded_pure, guarded_warning, Prog.bind]
  intro n
  dsimp only
  split
  · exact done _
  split
  · exact done _
  intro n'
  dsimp only
  split
  · exact done _
  split
  · exact done _
  split <;> simp [guarded_bind, done]

-- start-up succeeded over the written row, with the row's pair as the codec's metadata
def Loaded (rt : Runtime) (result : Except String Unit) (s : Store)
    (head : Option (Int × String)) : Prop :=
  Succeeds rt result s ∧ head = some (rt.specVersion, rt.metadata)

theorem loaded_stable {rt : Runtime} (result : Except String Unit) (head : Option (Int × String)) :
    Stable (BootstrapMove rt) (Loaded rt result · head) :=
  fun _ _ ⟨succeeds, loaded⟩ move => ⟨succeeds_stable result head _ _ succeeds move, loaded⟩

namespace Service

variable {rt : Runtime} (hex : Go.hasPrefix rt.metadata "0x" = true)
include hex

theorem initSubRuntimeLatestWithoutFetch_guarded (written : Written rt s) :
    Guarded (upgrading fun _ => rt) (BootstrapMove rt) (Loaded rt)
      initSubRuntimeLatestWithoutFetch s head := by
  simp only [initSubRuntimeLatestWithoutFetch, guarded_bind, guarded_recent]
  intro s' moved
  have written' := written_stable.reflTransGen moved written
  obtain ⟨r, recent, version, raw⟩ := written'.recent
  simp only [recent, raw, hex, if_true, guarded_bind, guarded_info, guarded_latest, guarded_pure]
  exact ⟨⟨rfl, written'⟩, by rw [version]⟩

variable (long : 100 ≤ Go.len rt.metadata) {networkNode : String}
  (named : Go.contains (Go.toLower networkNode) "cbc" = true) (wsEndPoint : String)
include long named

theorem initCBCChain_guarded (shaped : Shaped rt s) :
    Guarded (upgrading fun _ => rt) (BootstrapMove rt) (fun r s _ => Succeeds rt r s)
      (initCBCChain networkNode wsEndPoint) s head := by
  simp only [initCBCChain, named, Bool.true_eq_false, and_false, if_false, guarded_bind,
    guarded_info]
  refine guarded_check (((newCBCInitializer wsEndPoint).Initialize_guarded hex long
    (by simp [newCBCInitializer]) shaped).mono fun r s _ ⟨ok, written⟩ => ⟨(), ok, ?_⟩)
  simp only [guarded_bind]
  refine CBCInitializer.verifyDCFFinality_guarded _ fun r => ?_
  cases r <;> simp [guarded_bind, Succeeds, written]

theorem new_guarded (shaped : Shaped rt s) :
    Guarded (upgrading fun _ => rt) (BootstrapMove rt) (Loaded rt)
      (new networkNode wsEndPoint) s head := by
  simp only [new, guarded_bind]
  refine (initCBCChain_guarded hex long named wsEndPoint shaped).mono
    fun r s _ ⟨ok, written⟩ => ?_
  subst ok
  exact initSubRuntimeLatestWithoutFetch_guarded hex written

end Service

end Healthy

end CbcExplorer
