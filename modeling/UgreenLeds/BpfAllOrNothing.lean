import UgreenLeds.BpfLifecycle

/-!
# All or nothing

While `bpf_runtime_start` works, the runtime holds exactly what the kernel has in
addition to what it had before.  So the cleanup after a failure gives back the
kernel from before, and a later stop removes what the start has created, except
for filters whose own `bpf_tc_detach` fails: its result is ignored.
-/

namespace UgreenLeds

open Holdings (Adds Removes Leads Table created held)

/-- The places of the filters whose flags are set. -/
def BpfHandles.ownKeys (runtime : BpfHandles) : Set TcKey :=
  {key |
    ∃ direction,
      runtime.attached direction = true ∧
        key = tcKey runtime.ifindex direction}

/-- The runtime holds what the kernel has in addition to what it had. -/
structure Acquired
    (before : BpfKernel)
    (ifindex : UInt32)
    (world : BpfWorld) : Prop where
  filters :
    Adds before.filters world.kernel.filters world.runtime.ownKeys
  objects :
    Adds before.objects.cells world.kernel.objects.cells
      (held world.runtime.object)
  links :
    Adds before.links.cells world.kernel.links.cells
      (held world.runtime.diskLink)
  rings :
    Adds before.rings.cells world.kernel.rings.cells
      (held world.runtime.ring)
  clsactKept : before.clsact ⊆ world.kernel.clsact
  clsactNew :
    ∀ index ∈ world.kernel.clsact,
      index ∈ before.clsact ∨ index = ifindex

/-- Nothing is attached, linked or read from yet. -/
structure Prepared (world : BpfWorld) : Prop where
  unattached : ∀ direction, world.runtime.attached direction = false
  unlinked : world.runtime.diskLink = none
  ringless : world.runtime.ring = none

/-- Nothing is linked or read from yet. -/
structure Unlinked (world : BpfWorld) : Prop where
  unlinked : world.runtime.diskLink = none
  ringless : world.runtime.ring = none

/-- Nothing is read from yet. -/
def Ringless (world : BpfWorld) : Prop :=
  world.runtime.ring = none

/-- Nothing is attached yet, and the interface is known. -/
def Located
    (ifindex : UInt32)
    (world : BpfWorld) : Prop :=
  Prepared world ∧ world.runtime.ifindex = ifindex

/-- The interface of the filters is known. -/
def Attaching
    (ifindex : UInt32)
    (world : BpfWorld) : Prop :=
  Unlinked world ∧ world.runtime.ifindex = ifindex

section Keys

variable
  {runtime : BpfHandles}
  {direction : TcDirection}

/-- Without a flag there is no filter of one's own. -/
theorem ownKeys_of_unattached
    (unattached : ∀ direction, runtime.attached direction = false) :
    runtime.ownKeys = ∅ := by
  ext key
  simp [BpfHandles.ownKeys, unattached]

/-- The place of a filter tells its direction. -/
theorem tcKey_direction
    (ifindex : UInt32)
    (direction : TcDirection) :
    (tcKey ifindex direction).direction = direction :=
  rfl

/-- A flag that is set adds the place of its filter. -/
theorem ownKeys_attach :
    BpfHandles.ownKeys
        { runtime with
          attached :=
            Function.update runtime.attached direction true } =
      runtime.ownKeys ∪ {tcKey runtime.ifindex direction} := by
  ext key
  constructor
  · rintro ⟨other, attached, rfl⟩
    by_cases same : other = direction
    · exact Or.inr (by rw [same]; rfl)
    · refine Or.inl ⟨other, ?_, rfl⟩
      simpa [Function.update_of_ne same] using attached
  · rintro (⟨other, attached, rfl⟩ | rfl)
    · refine ⟨other, ?_, rfl⟩
      by_cases same : other = direction
      · subst same
        exact Function.update_self _ _ _
      · simpa [Function.update_of_ne same] using attached
    · exact ⟨direction, Function.update_self _ _ _, rfl⟩

end Keys

section Steps

variable
  {before : BpfKernel}
  {ifindex : UInt32}
  {Pre Post : BpfWorld → Prop}

/-- A call that installs nothing when it fails. -/
theorem failOr_leads
    {failure : Option Errno}
    {next : BpfWorld → BpfWorld}
    (acquires :
      ∀ world,
        Acquired before ifindex world →
        Pre world →
        Acquired before ifindex (next world) ∧ Post (next world)) :
    Leads (Acquired before ifindex) Pre Post (failOr failure next) := by
  constructor
  · intro world acquired pre
    unfold failOr
    cases failure with
    | none =>
        exact (acquires world acquired pre).1
    | some error =>
        exact acquired
  · intro world acquired pre succeeded
    unfold failOr at succeeded ⊢
    cases failure with
    | none =>
        exact (acquires world acquired pre).2
    | some error =>
        cases succeeded

/-- A lookup changes nothing. -/
theorem orMissing_leads (missing : Bool) :
    Leads (Acquired before ifindex) Pre Pre (orMissing missing) :=
  failOr_leads fun _ acquired pre => ⟨acquired, pre⟩

/-- The object of the runtime remains one that was acquired. -/
theorem Acquired.changeObject
    {world : BpfWorld}
    (acquired : Acquired before ifindex world)
    (transform : BpfObject → BpfObject) :
    Acquired before ifindex (world.changeObject transform) := by
  unfold BpfWorld.changeObject
  cases object : world.runtime.object with
  | none =>
      exact acquired
  | some number =>
      have objects := acquired.objects
      rw [object] at objects
      have changed := objects.change_held transform
      rw [← object] at changed
      exact { acquired with objects := changed }

/-- Changing the object leaves the runtime as it is. -/
theorem changeObject_runtime
    (world : BpfWorld)
    (transform : BpfObject → BpfObject) :
    (world.changeObject transform).runtime = world.runtime := by
  unfold BpfWorld.changeObject
  cases world.runtime.object <;> rfl

/-- A call that changes the object of the runtime. -/
theorem changeObject_leads
    {failure : Option Errno}
    {transform : BpfObject → BpfObject} :
    Leads (Acquired before ifindex) Prepared Prepared
      (failOr failure fun world => world.changeObject transform) := by
  refine failOr_leads fun world acquired prepared => ?_
  have same := changeObject_runtime world transform
  refine ⟨acquired.changeObject transform, ?_⟩
  exact
    { unattached := by rw [same]; exact prepared.unattached
      unlinked := by rw [same]; exact prepared.unlinked
      ringless := by rw [same]; exact prepared.ringless }

end Steps

section Start

variable
  {before : BpfKernel}
  {ifindex : UInt32}
  (script : BpfScript)
  (config : ConfigData)

/-- Choosing which programs to load only changes the object. -/
theorem setAutoload_leads
    (program : BpfProgram)
    (enabled : Bool) :
    Leads (Acquired before ifindex) Prepared Prepared
      (setAutoload script program enabled) :=
  .cons (orMissing_leads _)
    (.cons changeObject_leads (.nil fun _ prepared => prepared))

/-- Before anything is attached, the interface can be set. -/
theorem Acquired.locate
    {world : BpfWorld}
    (acquired : Acquired before ifindex world)
    (prepared : Prepared world)
    (index : UInt32) :
    Acquired before ifindex
      { world with runtime := { world.runtime with ifindex := index } } :=
  have unattached := prepared.unattached
  have filters := acquired.filters
  { acquired with
    filters := by
      rw [ownKeys_of_unattached unattached] at filters
      rw [@ownKeys_of_unattached
        { world.runtime with ifindex := index } unattached]
      exact filters }

/-- Looking up the interface fixes the place of the filters. -/
theorem findInterface_leads :
    Leads
      (Acquired before
        (script.nameToIndex (CString.content config.interface)))
      Prepared
      (Located (script.nameToIndex (CString.content config.interface)))
      (findInterface script config) := by
  constructor
  · intro world acquired prepared
    have located :=
      acquired.locate prepared
        (script.nameToIndex (CString.content config.interface))
    unfold findInterface
    simp only
    split
    · exact located
    · exact located
  · intro world acquired prepared succeeded
    unfold findInterface at succeeded ⊢
    simp only at succeeded ⊢
    split at succeeded
    · cases succeeded
    · rename_i named
      rw [if_neg named]
      exact
        ⟨⟨prepared.unattached, prepared.unlinked, prepared.ringless⟩,
          rfl⟩

/-- The only qdisc that is created is the one of the interface. -/
theorem createHook_leads :
    Leads (Acquired before ifindex) (Located ifindex)
      (Attaching ifindex) (createHook script) := by
  constructor
  · rintro world acquired ⟨prepared, located⟩
    unfold createHook
    split
    · exact acquired
    · exact
        { acquired with
          clsactKept :=
            acquired.clsactKept.trans (Finset.subset_insert _ _)
          clsactNew := by
            intro index member
            rcases Finset.mem_insert.mp member with same | present
            · exact Or.inr (same.trans located)
            · exact acquired.clsactNew index present }
  · rintro world - ⟨prepared, located⟩ -
    unfold createHook
    split
    · exact ⟨⟨prepared.unlinked, prepared.ringless⟩, located⟩
    · exact ⟨⟨prepared.unlinked, prepared.ringless⟩, located⟩

/-- A flag is set exactly if its filter was attached. -/
theorem attachFilter_leads (direction : TcDirection) :
    Leads (Acquired before ifindex) (Attaching ifindex)
      (Attaching ifindex) (attachFilter script direction) := by
  constructor
  · intro world acquired attaching
    unfold attachFilter
    simp only
    split
    · exact acquired
    · split
      · exact acquired
      · rename_i place
        have free :
            world.kernel.filters
                (tcKey world.runtime.ifindex direction) =
              none := by
          simpa using place
        refine { acquired with filters := ?_ }
        rw [ownKeys_attach]
        exact acquired.filters.insert free _
  · rintro world - ⟨unlinked, located⟩ succeeded
    unfold attachFilter at succeeded ⊢
    simp only at succeeded ⊢
    split at succeeded
    · cases succeeded
    · split at succeeded
      · cases succeeded
      · rename_i place
        rw [if_neg place]
        exact ⟨⟨unlinked.unlinked, unlinked.ringless⟩, located⟩

/-- Wherever `attach_tc` stops, the flags tell which filters it has attached. -/
theorem attachTc_leads :
    Leads (Acquired before ifindex) (Located ifindex) Unlinked
      (attachTc script) :=
  .cons (orMissing_leads _)
    (.cons (createHook_leads script)
      (.cons (attachFilter_leads script .ingress)
        (.cons (attachFilter_leads script .egress)
          (.nil fun _ attaching => attaching.1))))

/-- A link is held once it is attached. -/
theorem attachTracepoint_leads :
    Leads (Acquired before ifindex) Unlinked Ringless
      (attachTracepoint script) := by
  refine failOr_leads fun world acquired unlinked => ?_
  have links := acquired.links
  rw [unlinked.unlinked] at links
  exact ⟨{ acquired with links := links.create _ }, unlinked.ringless⟩

/-- A ring buffer is held once it is created. -/
theorem createRing_leads :
    Leads (Acquired before ifindex) Ringless (fun _ => True)
      (createRing script) := by
  refine failOr_leads fun world acquired ringless => ?_
  have rings := acquired.rings
  rw [show world.runtime.ring = none from ringless] at rings
  exact ⟨{ acquired with rings := rings.create _ }, trivial⟩

/-- What is held is what was acquired, wherever `bpf_runtime_start` stops. -/
theorem startObject_leads :
    Leads
      (Acquired before
        (script.nameToIndex (CString.content config.interface)))
      Prepared (fun _ => True) (startObject script config) := by
  have network :
      Leads
        (Acquired before
          (script.nameToIndex (CString.content config.interface)))
        Prepared Unlinked
        (Holdings.sequence
          [findInterface script config, attachTc script]) :=
    .cons (findInterface_leads script config)
      (.cons (attachTc_leads script) (.nil fun _ unlinked => unlinked))
  have disks :
      Leads
        (Acquired before
          (script.nameToIndex (CString.content config.interface)))
        Unlinked Ringless
        (Holdings.sequence
          [orMissing script.diskProgramMissing,
            attachTracepoint script]) :=
    .cons (orMissing_leads _)
      (.cons (attachTracepoint_leads script)
        (.nil fun _ ringless => ringless))
  refine .cons (setAutoload_leads script .networkIngress _) ?_
  refine .cons (setAutoload_leads script .networkEgress _) ?_
  refine .cons (setAutoload_leads script .diskIssue _) ?_
  refine .cons changeObject_leads (.cons (orMissing_leads _) ?_)
  refine .cons changeObject_leads ?_
  refine .cons
    (network.whenever fun _ prepared =>
      ⟨prepared.unlinked, prepared.ringless⟩) ?_
  refine .cons (disks.whenever fun _ unlinked => unlinked.ringless) ?_
  refine .cons (orMissing_leads _) (.cons (createRing_leads script) ?_)
  exact .nil fun _ done => done

/-- What is held after `bpf_object__open_file` is the object. -/
theorem openObject_acquired (kernel : BpfKernel) :
    Acquired kernel ifindex (openObject config kernel) where
  filters := by
    rw [ownKeys_of_unattached fun _ => rfl]
    exact Adds.refl _
  objects := (Adds.unheld kernel.objects.cells).create _
  links := Adds.unheld kernel.links.cells
  rings := Adds.unheld kernel.rings.cells
  clsactKept := subset_rfl
  clsactNew := fun _ member => Or.inl member

/-- After `bpf_object__open_file`, nothing is attached, linked or read from. -/
theorem openObject_prepared (kernel : BpfKernel) :
    Prepared (openObject config kernel) where
  unattached := fun _ => rfl
  unlinked := rfl
  ringless := rfl

end Start

section Stop

variable
  (detachFails : TcDirection → Option Errno)
  (world : BpfWorld)

/-- Detaching removes the filter of a flag that is set, unless it fails. -/
theorem detachFilter_removes (direction : TcDirection) :
    Removes world.kernel.filters
      (detachFilter detachFails world direction).kernel.filters
      {key |
        key ∈ world.runtime.ownKeys ∧
          key.direction = direction ∧
          detachFails direction = none} := by
  unfold detachFilter
  cases attached : world.runtime.attached direction with
  | false =>
      rw [if_neg Bool.false_ne_true]
      refine ⟨?_, fun _ _ => rfl⟩
      rintro key ⟨⟨other, isAttached, rfl⟩, rfl, -⟩
      rw [tcKey_direction, isAttached] at attached
      cases attached
  | true =>
      rw [if_pos rfl]
      cases result : detachFails direction with
      | some error =>
          refine ⟨?_, fun _ _ => rfl⟩
          rintro key ⟨-, -, succeeds⟩
          cases succeeds
      | none =>
          have same :
              {key |
                  key ∈ world.runtime.ownKeys ∧
                    key.direction = direction ∧
                    (none : Option Errno) = none} =
                {tcKey world.runtime.ifindex direction} := by
            ext key
            constructor
            · rintro ⟨⟨other, -, rfl⟩, rfl, -⟩
              rfl
            · rintro rfl
              exact ⟨⟨direction, attached, rfl⟩, rfl, rfl⟩
          rw [same]
          exact Removes.single _ _

/-- Detaching in one direction leaves the filters of the other one. -/
theorem mem_ownKeys_detachFilter
    {direction : TcDirection}
    {key : TcKey}
    (different : key.direction ≠ direction) :
    key ∈ (detachFilter detachFails world direction).runtime.ownKeys ↔
      key ∈ world.runtime.ownKeys := by
  unfold detachFilter
  split
  · constructor
    · rintro ⟨other, attached, rfl⟩
      change other ≠ direction at different
      change
        Function.update world.runtime.attached direction false other =
          true at attached
      rw [Function.update_of_ne different] at attached
      exact ⟨other, attached, rfl⟩
    · rintro ⟨other, attached, rfl⟩
      change other ≠ direction at different
      refine ⟨other, ?_, rfl⟩
      change
        Function.update world.runtime.attached direction false other =
          true
      rw [Function.update_of_ne different]
      exact attached
  · rfl

/-- Stopping removes the filters whose flags are set, unless it fails. -/
theorem bpfRuntimeStop_filters :
    Removes world.kernel.filters
      (bpfRuntimeStop detachFails world).kernel.filters
      {key |
        key ∈ world.runtime.ownKeys ∧
          detachFails key.direction = none} := by
  have ingress := detachFilter_removes detachFails world .ingress
  have egress :=
    detachFilter_removes detachFails
      (detachFilter detachFails world .ingress) .egress
  have same :
      {key |
          key ∈ world.runtime.ownKeys ∧
            key.direction = .ingress ∧
            detachFails .ingress = none} ∪
        {key |
          key ∈
              (detachFilter detachFails world
                .ingress).runtime.ownKeys ∧
            key.direction = .egress ∧
            detachFails .egress = none} =
      {key |
        key ∈ world.runtime.ownKeys ∧
          detachFails key.direction = none} := by
    ext key
    cases direction : key.direction with
    | ingress =>
        simp [direction]
    | egress =>
        have different : key.direction ≠ .ingress := by
          simp [direction]
        have kept :=
          mem_ownKeys_detachFilter detachFails world different
        simp [direction, kept]
  rw [← same]
  exact ingress.trans egress

/-- Detaching a filter leaves everything else as it is. -/
theorem detachFilter_rest (direction : TcDirection) :
    ∃ attached filters,
      detachFilter detachFails world direction =
        { runtime := { world.runtime with attached }
          kernel := { world.kernel with filters } } := by
  unfold detachFilter
  split
  · exact ⟨_, _, rfl⟩
  · exact ⟨_, _, rfl⟩

/-- Stopping gives back what the runtime holds, and no interface changes. -/
theorem bpfRuntimeStop_held :
    Removes world.kernel.objects.cells
        (bpfRuntimeStop detachFails world).kernel.objects.cells
        (held world.runtime.object) ∧
      Removes world.kernel.links.cells
        (bpfRuntimeStop detachFails world).kernel.links.cells
        (held world.runtime.diskLink) ∧
      Removes world.kernel.rings.cells
        (bpfRuntimeStop detachFails world).kernel.rings.cells
        (held world.runtime.ring) ∧
      (bpfRuntimeStop detachFails world).kernel.clsact =
        world.kernel.clsact := by
  obtain ⟨_, _, ingress⟩ :=
    detachFilter_rest detachFails world .ingress
  obtain ⟨_, _, egress⟩ :=
    detachFilter_rest detachFails
      (detachFilter detachFails world .ingress) .egress
  unfold bpfRuntimeStop detachTc
  rw [egress, ingress]
  exact
    ⟨Holdings.removes_releaseAny _ _, Holdings.removes_releaseAny _ _,
      Holdings.removes_releaseAny _ _, rfl⟩

/-- Stopping a runtime that holds nothing changes nothing. -/
theorem bpfRuntimeStop_zeroed (kernel : BpfKernel) :
    bpfRuntimeStop detachFails ⟨.zeroed, kernel⟩ = ⟨.zeroed, kernel⟩ :=
  rfl

end Stop

/-- After a failure, the kernel is what it was, except for failed detachments. -/
structure NothingLeft
    (script : BpfScript)
    (config : ConfigData)
    (before : BpfKernel)
    (after : BpfWorld) : Prop where
  runtime : after.runtime = .zeroed
  filtersKept :
    ∀ key,
      before.filters key ≠ none →
      after.kernel.filters key = before.filters key
  filtersNew :
    ∀ key ∈ created before.filters after.kernel.filters,
      script.detachFails key.direction ≠ none
  objects : after.kernel.objects.cells = before.objects.cells
  links : after.kernel.links.cells = before.links.cells
  rings : after.kernel.rings.cells = before.rings.cells
  clsactKept : before.clsact ⊆ after.kernel.clsact
  clsactNew :
    ∀ index ∈ after.kernel.clsact,
      index ∈ before.clsact ∨
        index = script.nameToIndex (CString.content config.interface)

/--
A later stop removes what a start has created, except for failed detachments.  The
filters are known by their places: interface, direction, handle and priority.
-/
structure RemovesCreated
    (before : BpfKernel)
    (started : BpfWorld)
    (detachFails : TcDirection → Option Errno)
    (later : BpfKernel)
    (stopped : BpfWorld) : Prop where
  runtime : stopped.runtime = .zeroed
  filters :
    Removes later.filters stopped.kernel.filters
      {key |
        key ∈ created before.filters started.kernel.filters ∧
          detachFails key.direction = none}
  objects :
    Removes later.objects.cells stopped.kernel.objects.cells
      (created before.objects.cells started.kernel.objects.cells)
  links :
    Removes later.links.cells stopped.kernel.links.cells
      (created before.links.cells started.kernel.links.cells)
  rings :
    Removes later.rings.cells stopped.kernel.rings.cells
      (created before.rings.cells started.kernel.rings.cells)
  clsact : stopped.kernel.clsact = later.clsact

/-- Nothing is left behind if the object could not be opened. -/
theorem nothingLeft_unopened
    (script : BpfScript)
    (config : ConfigData)
    (kernel : BpfKernel) :
    NothingLeft script config kernel ⟨.zeroed, kernel⟩ where
  runtime := rfl
  filtersKept := fun _ _ => rfl
  filtersNew := fun _ ⟨free, taken⟩ => absurd free taken
  objects := rfl
  links := rfl
  rings := rfl
  clsactKept := subset_rfl
  clsactNew := fun _ member => Or.inl member

/-- Stopping gives back what was acquired. -/
theorem Acquired.nothingLeft
    {script : BpfScript}
    {config : ConfigData}
    {before : BpfKernel}
    {world : BpfWorld}
    (acquired :
      Acquired before
        (script.nameToIndex (CString.content config.interface)) world) :
    NothingLeft script config before
      (bpfRuntimeStop script.detachFails world) := by
  obtain ⟨objects, links, rings, clsact⟩ :=
    bpfRuntimeStop_held script.detachFails world
  have left :=
    acquired.filters.removes
      (bpfRuntimeStop_filters script.detachFails world)
      fun _ member => member.1
  exact
    { runtime := rfl
      filtersKept := fun key present =>
        left.kept key fun member => present (left.free key member)
      filtersNew := by
        intro key member
        rw [← left.eq_created] at member
        exact fun succeeds => member.2 ⟨member.1, succeeds⟩
      objects := acquired.objects.restored objects
      links := acquired.links.restored links
      rings := acquired.rings.restored rings
      clsactKept := by
        rw [clsact]
        exact acquired.clsactKept
      clsactNew := by
        rw [clsact]
        exact acquired.clsactNew }

/-- Stopping later removes what was created. -/
theorem Acquired.removesCreated
    {before : BpfKernel}
    {ifindex : UInt32}
    {started : BpfWorld}
    (acquired : Acquired before ifindex started)
    (detachFails : TcDirection → Option Errno)
    (later : BpfKernel) :
    RemovesCreated before started detachFails later
      (bpfRuntimeStop detachFails ⟨started.runtime, later⟩) := by
  obtain ⟨objects, links, rings, clsact⟩ :=
    bpfRuntimeStop_held detachFails ⟨started.runtime, later⟩
  exact
    { runtime := rfl
      filters := by
        rw [← acquired.filters.eq_created]
        exact
          bpfRuntimeStop_filters detachFails ⟨started.runtime, later⟩
      objects := by
        rw [← acquired.objects.eq_created]
        exact objects
      links := by
        rw [← acquired.links.eq_created]
        exact links
      rings := by
        rw [← acquired.rings.eq_created]
        exact rings
      clsact }

/--
A start that fails leaves nothing behind, a stop after a start that succeeds
removes what it has created, the filters by their places, and another stop changes
nothing.  Only filters whose own `bpf_tc_detach` fails remain.
-/
theorem bpfRuntimeStart_allOrNothing
    (script : BpfScript)
    (config : ConfigData)
    (world : BpfWorld) :
    (∀ error after,
      bpfRuntimeStart script config world = (.error error, after) →
      NothingLeft script config world.kernel after) ∧
    (∀ started,
      bpfRuntimeStart script config world = (.ok (), started) →
      ∀ detachFails later,
        RemovesCreated world.kernel started detachFails later
          (bpfRuntimeStop detachFails ⟨started.runtime, later⟩)) ∧
    ∀ detachFails kernel,
      bpfRuntimeStop detachFails ⟨.zeroed, kernel⟩ =
        ⟨.zeroed, kernel⟩ := by
  have acquired :
      Acquired world.kernel
        (script.nameToIndex (CString.content config.interface))
        (openObject config world.kernel) :=
    openObject_acquired config world.kernel
  have prepared := openObject_prepared config world.kernel
  have leads := @startObject_leads world.kernel script config
  refine ⟨?_, ?_, bpfRuntimeStop_zeroed⟩
  · intro error after failed
    unfold bpfRuntimeStart at failed
    cases opens : script.openFails with
    | some errno =>
        rw [opens] at failed
        cases failed
        exact nothingLeft_unopened script config world.kernel
    | none =>
        rw [opens] at failed
        obtain ⟨middle, held, rfl⟩ :=
          leads.cleaned acquired prepared failed
        exact held.nothingLeft
  · intro started succeeded detachFails later
    unfold bpfRuntimeStart at succeeded
    cases opens : script.openFails with
    | some errno =>
        rw [opens] at succeeded
        cases succeeded
    | none =>
        rw [opens] at succeeded
        obtain ⟨held, -⟩ :=
          leads.completed acquired prepared succeeded
        exact held.removesCreated detachFails later

/-- No ring buffer can be created, and the filters cannot be detached. -/
def ringAndDetachFail : BpfScript where
  openFails := none
  autoloadMissing := fun _ => false
  autoloadFails := fun _ => none
  loadFails := none
  configMapMissing := false
  updateFails := none
  nameToIndex := fun _ => 2
  tcProgramMissing := fun _ => false
  hookCreateFails := none
  attachFails := fun _ => none
  diskProgramMissing := false
  tracepointFails := none
  eventsMissing := false
  ringFails := some none
  detachFails := fun _ => some .enobufs
  programFd := fun _ => 7

/-- A kernel in which no program has installed anything. -/
def quietKernel : BpfKernel where
  filters := fun _ => none
  clsact := ∅
  objects := .empty
  links := .empty
  rings := .empty

/-- Both filters remain after a start that failed. -/
theorem failed_detach_remains :
    ∃ after,
      bpfRuntimeStart ringAndDetachFail
          (copyInterface (ascii "eth0") .defaults).2
          ⟨.zeroed, quietKernel⟩ =
        (.error .eio, after) ∧
      ∀ direction,
        quietKernel.filters (tcKey 2 direction) = none ∧
          after.kernel.filters (tcKey 2 direction) = some 7 := by
  refine ⟨_, rfl, ?_⟩
  intro direction
  cases direction with
  | ingress =>
      exact ⟨rfl, rfl⟩
  | egress =>
      exact ⟨rfl, rfl⟩

end UgreenLeds
