import KernelModules.Foundations.Bytes
import KernelModules.Foundations.Lists
import KernelModules.Foundations.Runs

/-!
# The RAM disks of the block driver

`block.c` keeps the data of each of its disks in memory. `simple_request` takes requests from a
queue and hands them to `transfer` one segment at a time: what is in `buffer` is copied to the disk,
or what is on the disk is copied to `buffer`. This `buffer` is not the memory of the segment but a
static array that all requests of all disks share. The pages of a request are neither read nor
written, so that a request is completed with its pages as they came (`Completed.segments`).

The abstract disk is a store of sectors, `recalled`: what a sector holds is what has last been
written to it. `storeOfSectors_of_faithful` says what it takes for the driver to be such a store:
that the data of every write is in `buffer` already, that the pages of every read hold the sectors
already, and that a request past the end of its disk is past the end from its first segment on.
-/

set_option autoImplicit false
set_option relaxedAutoImplicit false

namespace KernelModules.BlockDriver

open Foundations

/-! ### The driver -/

/-- `-EIO`. -/
def eio : Int32 := -5

/-- A `struct disk_dev` whose memory has been allocated. -/
structure DiskDev where
  size : Int32
  data : List UInt8
  length_data : (data.length : ℤ) = size.toInt

/-- A segment of a request: its length in sectors, and its pages. -/
structure Segment where
  sectors : UInt32
  memory : List UInt8
  length_memory : memory.length = sectors.toNat * 512

/-- A `struct request`: its disk, whether it is a file-system request, its direction, the sector it
starts at, and its segments. -/
structure BlkRequest where
  disk : ℕ
  fs : Bool
  write : Bool
  pos : UInt64
  segments : List Segment

/-- The disks and the static `buffer`. -/
structure BlockSystem where
  disks : List DiskDev
  buffer : List UInt8

/-- A request that has been completed: the status of each segment, and the segments. -/
structure Completed where
  errors : List Int32
  segments : List Segment

/-- Bytes are copied to the memory of a disk. -/
def DiskDev.store (dev : DiskDev) (offset : ℕ) (bytes : List UInt8) : DiskDev where
  size := dev.size
  data := writeAt dev.data offset bytes
  length_data := by rw [length_writeAt, dev.length_data]

/-- `transfer`. The size, an `int`, is compared as an `unsigned long`. -/
def transfer (dev : DiskDev) (sector nsect : UInt64) (buffer : List UInt8) (write : Bool) :
    DiskDev × List UInt8 × Int32 :=
  let offset := sector * 512
  let nbytes := nsect * 512
  if offset + nbytes > dev.size.toInt64.toUInt64 then (dev, buffer, eio)
  else if write then (dev.store offset.toNat (bytesAt buffer 0 nbytes.toNat), buffer, 0)
  else (dev, writeAt buffer 0 (bytesAt dev.data offset.toNat nbytes.toNat), 0)

/-- The segments of a request, one after the other. The position is held in an `unsigned`; it
advances by the segment that is completed, whatever its status. -/
def transferSegments (dev : DiskDev) (buffer : List UInt8) (write : Bool) (pos : UInt64) :
    List Segment → DiskDev × List UInt8 × List Int32
  | [] => (dev, buffer, [])
  | segment :: rest =>
    let first := transfer dev pos.toUInt32.toUInt64 segment.sectors.toUInt64 buffer write
    let later := transferSegments first.1 first.2.1 write (pos + segment.sectors.toUInt64) rest
    (later.1, later.2.1, first.2.2 :: later.2.2)

/-- `simple_request` on one request. -/
def serveRequest (system : BlockSystem) (request : BlkRequest) : BlockSystem × Completed :=
  match system.disks[request.disk]? with
  | none => (system, ⟨[], request.segments⟩)
  | some dev =>
    if request.fs then
      let done := transferSegments dev system.buffer request.write request.pos request.segments
      (⟨system.disks.set request.disk done.1, done.2.1⟩, ⟨done.2.2, request.segments⟩)
    else (system, ⟨[eio], request.segments⟩)

/-- The disks after one request. -/
def blockStep (system : BlockSystem) (request : BlkRequest) : BlockSystem :=
  (serveRequest system request).1

/-- `simple_request`: one request after the other. -/
def simpleRequest (system : BlockSystem) (requests : List BlkRequest) : BlockSystem :=
  requests.foldl blockStep system

/-! ### Disks as stores of sectors -/

/-- The number of sectors of a request. -/
def BlkRequest.sectors (request : BlkRequest) : ℕ := (request.segments.map (·.sectors.toNat)).sum

/-- The pages of some segments. -/
def payload (segments : List Segment) : List UInt8 := segments.flatMap (·.memory)

/-- A sector of a stretch of memory. -/
def sectorAt (data : List UInt8) (sector : ℕ) : List UInt8 := bytesAt data (sector * 512) 512

/-- What a sector of a disk holds. -/
def contents (system : BlockSystem) (disk sector : ℕ) : List UInt8 :=
  match system.disks[disk]? with
  | none => []
  | some dev => sectorAt dev.data sector

/-- The size of a disk. -/
def diskSize (system : BlockSystem) (disk : ℕ) : ℕ :=
  match system.disks[disk]? with
  | none => 0
  | some dev => dev.data.length

/-- The request ends before the end of the disk. -/
def BlkRequest.InRange (request : BlkRequest) (size : ℕ) : Prop :=
  (request.pos.toNat + request.sectors) * 512 ≤ size

instance (request : BlkRequest) (size : ℕ) : Decidable (request.InRange size) :=
  inferInstanceAs (Decidable (_ ≤ _))

/-- The request covers the sector of the disk. -/
def BlkRequest.Covers (request : BlkRequest) (disk sector : ℕ) : Prop :=
  disk = request.disk ∧ request.pos.toNat ≤ sector ∧ sector < request.pos.toNat + request.sectors

instance (request : BlkRequest) (disk sector : ℕ) : Decidable (request.Covers disk sector) :=
  inferInstanceAs (Decidable (_ ∧ _ ∧ _))

/-- What a store of sectors holds after a request, if it held `store` before. -/
def overlay (sizes : ℕ → ℕ) (store : ℕ → ℕ → List UInt8) (request : BlkRequest) (disk sector : ℕ) :
    List UInt8 :=
  if request.fs ∧ request.write ∧ request.InRange (sizes disk) ∧ request.Covers disk sector then
    sectorAt (payload request.segments) (sector - request.pos.toNat)
  else store disk sector

/-- What has last been written to each sector, or what it held at the start. -/
def recalled (start : BlockSystem) (requests : List BlkRequest) : ℕ → ℕ → List UInt8 :=
  requests.foldl (overlay (diskSize start)) (contents start)

/-- A request is treated as by a store of sectors that holds `expected`. -/
structure RequestOk (expected : ℕ → ℕ → List UInt8) (system : BlockSystem) (request : BlkRequest) :
    Prop where
  succeeds : request.fs = true → request.disk < system.disks.length →
    request.InRange (diskSize system request.disk) →
      (serveRequest system request).2.errors = List.replicate request.segments.length 0
  reads : request.fs = true → request.write = false → request.disk < system.disks.length →
    request.InRange (diskSize system request.disk) → ∀ k < request.sectors,
      sectorAt (payload (serveRequest system request).2.segments) k =
        expected request.disk (request.pos.toNat + k)
  writes : ∀ disk sector, ¬(request.write = true ∧ request.Covers disk sector) →
    contents (blockStep system request) disk sector = contents system disk sector
  beyond : request.fs = true → request.disk < system.disks.length →
    ¬request.InRange (diskSize system request.disk) →
      (serveRequest system request).2.errors = List.replicate request.segments.length eio ∧
        (blockStep system request).disks = system.disks

/-- In a run every request in range succeeds, every read returns what has last been written, writes
change only the sectors they cover, and requests past the end fail and change nothing. -/
def StoreOfSectors (start : BlockSystem) (requests : List BlkRequest) : Prop :=
  ∀ before request after, requests = before ++ request :: after →
    RequestOk (recalled start before) (simpleRequest start before) request

/-- The number of sectors of the first segment. -/
def BlkRequest.firstSectors (request : BlkRequest) : ℕ :=
  (request.segments.head?.map (·.sectors.toNat)).getD 0

/-- The data of a write is in the buffer already, and the pages of a read hold the sectors
already. -/
def Prepared (dev : DiskDev) (buffer : List UInt8) (request : BlkRequest) : Prop :=
  (request.write = true →
    ∀ segment ∈ request.segments, bytesAt buffer 0 segment.memory.length = segment.memory) ∧
  (request.write = false →
    payload request.segments = bytesAt dev.data (request.pos.toNat * 512) (request.sectors * 512))

instance (dev : DiskDev) (buffer : List UInt8) (request : BlkRequest) :
    Decidable (Prepared dev buffer request) :=
  inferInstanceAs (Decidable (_ ∧ _))

/-- A file-system request is in range and prepared, or past the end from its first segment on. -/
def Faithful (system : BlockSystem) (request : BlkRequest) : Prop :=
  request.fs = true → ∀ dev ∈ system.disks[request.disk]?,
    request.InRange dev.data.length ∧ Prepared dev system.buffer request ∨
      dev.data.length < (request.pos.toNat + request.firstSectors) * 512 ∧
        request.pos.toNat + request.sectors < 2 ^ 32

instance (system : BlockSystem) (request : BlkRequest) : Decidable (Faithful system request) :=
  inferInstanceAs (Decidable (_ → ∀ dev ∈ system.disks[request.disk]?, _))

/-! ### Transfers -/

theorem payload_cons (segment : Segment) (rest : List Segment) :
    payload (segment :: rest) = segment.memory ++ payload rest := rfl

theorem length_payload (segments : List Segment) :
    (payload segments).length = (segments.map (·.sectors.toNat)).sum * 512 := by
  induction segments with
  | nil => rfl
  | cons segment rest ih =>
    rw [payload_cons, List.length_append, ih, segment.length_memory, List.map_cons, List.sum_cons,
      Nat.add_mul]

theorem toNat_size (dev : DiskDev) : dev.size.toInt64.toUInt64.toNat = dev.data.length := by
  have hnonneg : 0 ≤ dev.size.toInt64 := by
    rw [Int64.le_iff_toInt_le, Int32.toInt_toInt64, ← dev.length_data]
    exact Int.natCast_nonneg _
  rw [Int64.toNat_toUInt64_of_le hnonneg, ← Int64.toNat_toInt, Int32.toInt_toInt64,
    ← dev.length_data, Int.toNat_natCast]

theorem length_data_lt (dev : DiskDev) : dev.data.length < 2 ^ 31 := by
  have hlt := dev.size.toInt_lt
  have hlength := dev.length_data
  omega

/-- `transfer` over the natural numbers. -/
theorem transfer_eq (dev : DiskDev) (sector nsect : UInt32) (buffer : List UInt8) (write : Bool) :
    transfer dev sector.toUInt64 nsect.toUInt64 buffer write =
      if dev.data.length < (sector.toNat + nsect.toNat) * 512 then (dev, buffer, eio)
      else if write then
        (dev.store (sector.toNat * 512) (bytesAt buffer 0 (nsect.toNat * 512)), buffer, 0)
      else
        (dev, writeAt buffer 0 (bytesAt dev.data (sector.toNat * 512) (nsect.toNat * 512)), 0) := by
  have hbytes (n : UInt32) : (n.toUInt64 * 512).toNat = n.toNat * 512 := by
    have hn := n.toNat_lt
    rw [UInt64.toNat_mul, UInt32.toNat_toUInt64]
    exact Nat.mod_eq_of_lt (by simp; omega)
  have hsector := sector.toNat_lt
  have hnsect := nsect.toNat_lt
  have hend : (sector.toUInt64 * 512 + nsect.toUInt64 * 512).toNat =
      (sector.toNat + nsect.toNat) * 512 := by
    rw [UInt64.toNat_add, hbytes, hbytes, Nat.mod_eq_of_lt (by omega), Nat.add_mul]
  simp only [transfer, gt_iff_lt, UInt64.lt_iff_toNat_lt, toNat_size, hend, hbytes]

theorem store_store (dev : DiskDev) (offset : ℕ) (first second : List UInt8) :
    (dev.store offset first).store (offset + first.length) second =
      dev.store offset (first ++ second) := by
  simp only [DiskDev.store, writeAt_writeAt]

theorem toNat_toUInt32_of_lt {pos : UInt64} (hpos : pos.toNat < 2 ^ 32) :
    pos.toUInt32.toNat = pos.toNat := by
  rw [UInt64.toNat_toUInt32]
  exact Nat.mod_eq_of_lt hpos

theorem toNat_add_sectors {pos : UInt64} {n : UInt32} (hpos : pos.toNat < 2 ^ 32) :
    (pos + n.toUInt64).toNat = pos.toNat + n.toNat := by
  have hn := n.toNat_lt
  rw [UInt64.toNat_add, UInt32.toNat_toUInt64]
  exact Nat.mod_eq_of_lt (by omega)

/-- A write that is prepared stores its pages. -/
theorem transferSegments_write {dev : DiskDev} {buffer : List UInt8} {pos : UInt64}
    {segments : List Segment}
    (hrange : (pos.toNat + (segments.map (·.sectors.toNat)).sum) * 512 ≤ dev.data.length)
    (hprepared : ∀ segment ∈ segments, bytesAt buffer 0 segment.memory.length = segment.memory) :
    (transferSegments dev buffer true pos segments).1 =
      dev.store (pos.toNat * 512) (payload segments) := by
  induction segments generalizing dev pos with
  | nil => simp [transferSegments, payload, DiskDev.store]
  | cons segment rest ih =>
    have hsize := length_data_lt dev
    rw [List.map_cons, List.sum_cons] at hrange
    have hpos : pos.toNat < 2 ^ 32 := by omega
    have hfirst : transfer dev pos.toUInt32.toUInt64 segment.sectors.toUInt64 buffer true =
        (dev.store (pos.toNat * 512) segment.memory, buffer, 0) := by
      have hmemory := hprepared segment List.mem_cons_self
      rw [segment.length_memory] at hmemory
      rw [transfer_eq, toNat_toUInt32_of_lt hpos, if_neg (by omega), hmemory]
      rfl
    have hrange' : ((pos + segment.sectors.toUInt64).toNat +
        (rest.map (·.sectors.toNat)).sum) * 512 ≤
        (dev.store (pos.toNat * 512) segment.memory).data.length := by
      rw [toNat_add_sectors hpos, DiskDev.store, length_writeAt, Nat.add_assoc]
      exact hrange
    have hlater := ih hrange' fun other hother ↦ hprepared other (List.mem_cons_of_mem _ hother)
    simp only [transferSegments, hfirst]
    rw [hlater, toNat_add_sectors hpos, Nat.add_mul, ← segment.length_memory, store_store,
      payload_cons]

/-- A read leaves the disk alone. -/
theorem transferSegments_read (dev : DiskDev) (buffer : List UInt8) (pos : UInt64)
    (segments : List Segment) : (transferSegments dev buffer false pos segments).1 = dev := by
  induction segments generalizing buffer pos with
  | nil => rfl
  | cons segment rest ih =>
    have hfirst (sector nsect : UInt64) : (transfer dev sector nsect buffer false).1 = dev := by
      simp only [transfer, Bool.false_eq_true, if_false]
      split_ifs <;> rfl
    simp only [transferSegments, hfirst, ih]

theorem length_data_transfer (dev : DiskDev) (sector nsect : UInt64) (buffer : List UInt8)
    (write : Bool) : (transfer dev sector nsect buffer write).1.data.length = dev.data.length := by
  simp only [transfer]
  split_ifs
  · rfl
  · exact length_writeAt _ _ _
  · rfl

/-- Every segment of a request in range succeeds, whatever is in the buffer. -/
theorem errors_transferSegments {dev : DiskDev} {buffer : List UInt8} {write : Bool} {pos : UInt64}
    {segments : List Segment}
    (hrange : (pos.toNat + (segments.map (·.sectors.toNat)).sum) * 512 ≤ dev.data.length) :
    (transferSegments dev buffer write pos segments).2.2 = List.replicate segments.length 0 := by
  induction segments generalizing dev buffer pos with
  | nil => rfl
  | cons segment rest ih =>
    have hsize := length_data_lt dev
    rw [List.map_cons, List.sum_cons] at hrange
    have hpos : pos.toNat < 2 ^ 32 := by omega
    have hfirst : (transfer dev pos.toUInt32.toUInt64 segment.sectors.toUInt64 buffer write).2.2 =
        0 := by
      rw [transfer_eq, toNat_toUInt32_of_lt hpos, if_neg (by omega)]
      split_ifs <;> rfl
    simp only [transferSegments, hfirst]
    rw [ih (by rw [toNat_add_sectors hpos, length_data_transfer, Nat.add_assoc]; exact hrange)]
    rfl

/-- A request that is past the end from its first segment on fails and changes nothing. -/
theorem transferSegments_beyond {dev : DiskDev} {buffer : List UInt8} {write : Bool} {pos : UInt64}
    {segments : List Segment}
    (hbeyond : dev.data.length <
      (pos.toNat + (segments.head?.map (·.sectors.toNat)).getD 0) * 512)
    (hpos : pos.toNat + (segments.map (·.sectors.toNat)).sum < 2 ^ 32) :
    transferSegments dev buffer write pos segments =
      (dev, buffer, List.replicate segments.length eio) := by
  induction segments generalizing pos with
  | nil => rfl
  | cons segment rest ih =>
    rw [List.map_cons, List.sum_cons] at hpos
    simp only [List.head?_cons, Option.map_some, Option.getD_some] at hbeyond
    have hfirst : transfer dev pos.toUInt32.toUInt64 segment.sectors.toUInt64 buffer write =
        (dev, buffer, eio) := by
      rw [transfer_eq, toNat_toUInt32_of_lt (by omega), if_pos hbeyond]
    have hnext : (pos + segment.sectors.toUInt64).toNat = pos.toNat + segment.sectors.toNat :=
      toNat_add_sectors (by omega)
    have hbeyond' : dev.data.length < ((pos + segment.sectors.toUInt64).toNat +
        (rest.head?.map (·.sectors.toNat)).getD 0) * 512 := by
      rw [hnext]
      exact hbeyond.trans_le (Nat.mul_le_mul_right _ (Nat.le_add_right _ _))
    have hpos' : (pos + segment.sectors.toUInt64).toNat + (rest.map (·.sectors.toNat)).sum <
        2 ^ 32 := by
      rwa [hnext, Nat.add_assoc]
    simp only [transferSegments, hfirst, ih hbeyond' hpos']
    rfl

theorem length_data_transferSegments (dev : DiskDev) (buffer : List UInt8) (write : Bool)
    (pos : UInt64) (segments : List Segment) :
    (transferSegments dev buffer write pos segments).1.data.length = dev.data.length := by
  induction segments generalizing dev buffer pos with
  | nil => rfl
  | cons segment rest ih => simp only [transferSegments, ih, length_data_transfer]

/-! ### One request -/

theorem disks_blockStep {system : BlockSystem} {request : BlkRequest} {dev : DiskDev}
    (hdev : system.disks[request.disk]? = some dev) (hfs : request.fs = true) :
    (blockStep system request).disks = system.disks.set request.disk
      (transferSegments dev system.buffer request.write request.pos request.segments).1 := by
  simp only [blockStep, serveRequest, hdev, hfs, if_true]

/-- Nothing happens for a disk that does not exist, or a request that is not one of the file
system. -/
theorem blockStep_eq_self {system : BlockSystem} {request : BlkRequest}
    (hidle : system.disks[request.disk]? = none ∨ request.fs = false) :
    blockStep system request = system := by
  rw [blockStep, serveRequest]
  rcases hidle with hnone | hfs
  · rw [hnone]
  · cases system.disks[request.disk]? <;> simp [hfs]

theorem contents_of_some {system : BlockSystem} {disk : ℕ} {dev : DiskDev}
    (hdev : system.disks[disk]? = some dev) (sector : ℕ) :
    contents system disk sector = sectorAt dev.data sector := by
  rw [contents, hdev]

theorem diskSize_of_some {system : BlockSystem} {disk : ℕ} {dev : DiskDev}
    (hdev : system.disks[disk]? = some dev) : diskSize system disk = dev.data.length := by
  rw [diskSize, hdev]

theorem contents_of_disks {system after : BlockSystem} {disk : ℕ} {dev : DiskDev}
    (hdisks : after.disks = system.disks.set disk dev) (hdisk : disk < system.disks.length)
    (other sector : ℕ) :
    contents after other sector =
      if other = disk then sectorAt dev.data sector else contents system other sector := by
  rw [contents, hdisks]
  by_cases hother : other = disk
  · subst hother
    rw [List.getElem?_set_self hdisk, if_pos rfl]
  · rw [List.getElem?_set_ne (Ne.symm hother), if_neg hother, contents]

theorem firstSectors_le (request : BlkRequest) : request.firstSectors ≤ request.sectors := by
  rw [BlkRequest.firstSectors, BlkRequest.sectors]
  cases request.segments with
  | nil => exact le_refl _
  | cons segment rest => simp

theorem not_inRange_of_firstSectors {request : BlkRequest} {size : ℕ}
    (hbeyond : size < (request.pos.toNat + request.firstSectors) * 512) :
    ¬request.InRange size := by
  have hfirst := firstSectors_le request
  rw [BlkRequest.InRange]
  omega

/-- A sector after a write. -/
theorem sectorAt_store {dev : DiskDev} {request : BlkRequest}
    (hrange : request.InRange dev.data.length)
    (sector : ℕ) :
    sectorAt (dev.store (request.pos.toNat * 512) (payload request.segments)).data sector =
      if request.pos.toNat ≤ sector ∧ sector < request.pos.toNat + request.sectors then
        sectorAt (payload request.segments) (sector - request.pos.toNat)
      else sectorAt dev.data sector := by
  rw [BlkRequest.InRange, Nat.add_mul] at hrange
  have hlength : request.sectors * 512 = (payload request.segments).length :=
    (length_payload request.segments).symm
  split_ifs with hcovered
  · obtain ⟨j, rfl⟩ := Nat.exists_eq_add_of_le hcovered.1
    have hcount : (j + 1) * 512 ≤ request.sectors * 512 :=
      Nat.mul_le_mul_right _ (Nat.lt_of_add_lt_add_left hcovered.2)
    rw [hlength] at hrange hcount
    rw [Nat.add_sub_cancel_left, sectorAt, Nat.add_mul]
    exact bytesAt_writeAt_of_le hrange (Nat.succ_mul j 512 ▸ hcount)
  · apply bytesAt_writeAt_of_disjoint
    rw [← hlength]
    omega

/-- A request that is faithful acts like a store of sectors. -/
theorem contents_blockStep {system : BlockSystem} {request : BlkRequest}
    (hfaithful : Faithful system request) :
    contents (blockStep system request) =
      overlay (diskSize system) (contents system) request := by
  funext disk sector
  cases hdev : system.disks[request.disk]? with
  | none =>
    rw [blockStep_eq_self (Or.inl hdev), overlay, if_neg]
    rintro ⟨-, -, hrange, rfl, hcovered⟩
    have hsize : diskSize system request.disk = 0 := by rw [diskSize, hdev]
    rw [hsize, BlkRequest.InRange] at hrange
    omega
  | some dev =>
    by_cases hfs : request.fs = true
    · have hdisk := (List.getElem?_eq_some_iff.mp hdev).1
      rw [contents_of_disks (disks_blockStep hdev hfs) hdisk, overlay]
      by_cases hother : disk = request.disk
      · subst hother
        rw [if_pos rfl, contents_of_some hdev, diskSize_of_some hdev]
        rcases hfaithful hfs dev hdev with ⟨hrange, hprepared⟩ | ⟨hbeyond, hpos⟩
        · cases hwrite : request.write with
          | false => simp [transferSegments_read]
          | true =>
            rw [transferSegments_write hrange (hprepared.1 hwrite), sectorAt_store hrange]
            simp [hfs, hrange, BlkRequest.Covers]
        · rw [transferSegments_beyond hbeyond hpos, if_neg]
          exact fun hin ↦ not_inRange_of_firstSectors hbeyond hin.2.2.1
      · rw [if_neg hother, if_neg]
        exact fun hin ↦ hother hin.2.2.2.1
    · have hidle : request.fs = false := by simpa using hfs
      rw [blockStep_eq_self (Or.inr hidle), overlay, if_neg (fun hin ↦ hfs hin.1)]

theorem diskSize_blockStep (system : BlockSystem) (request : BlkRequest) :
    diskSize (blockStep system request) = diskSize system := by
  funext disk
  cases hdev : system.disks[request.disk]? with
  | none => rw [blockStep_eq_self (Or.inl hdev)]
  | some dev =>
    by_cases hfs : request.fs = true
    · rw [diskSize, disks_blockStep hdev hfs, diskSize]
      by_cases hother : disk = request.disk
      · subst hother
        rw [List.getElem?_set_self (List.getElem?_eq_some_iff.mp hdev).1, hdev]
        exact length_data_transferSegments _ _ _ _ _
      · rw [List.getElem?_set_ne (Ne.symm hother)]
    · rw [blockStep_eq_self (Or.inr (by simpa using hfs))]

/-- A request that is faithful is treated as by the store of sectors that the disks hold. -/
theorem requestOk_of_faithful {system : BlockSystem} {request : BlkRequest}
    (hfaithful : Faithful system request) : RequestOk (contents system) system request where
  succeeds := by
    intro hfs hdisk hrange
    obtain ⟨dev, hdev⟩ : ∃ dev, system.disks[request.disk]? = some dev :=
      ⟨_, List.getElem?_eq_getElem hdisk⟩
    rw [diskSize_of_some hdev] at hrange
    simp only [serveRequest, hdev, hfs, if_true]
    exact errors_transferSegments hrange
  reads := by
    intro hfs hread hdisk hrange k hk
    obtain ⟨dev, hdev⟩ : ∃ dev, system.disks[request.disk]? = some dev :=
      ⟨_, List.getElem?_eq_getElem hdisk⟩
    rw [diskSize_of_some hdev] at hrange
    have hsegments : (serveRequest system request).2.segments = request.segments := by
      simp only [serveRequest, hdev, hfs, if_true]
    rcases hfaithful hfs dev hdev with ⟨-, hprepared⟩ | ⟨hbeyond, -⟩
    · have hcount : k * 512 + 512 ≤ request.sectors * 512 := by omega
      rw [hsegments, hprepared.2 hread, contents_of_some hdev, sectorAt, sectorAt,
        bytesAt_bytesAt _ _ hcount, Nat.add_mul]
    · exact absurd hrange (not_inRange_of_firstSectors hbeyond)
  writes := by
    intro disk sector huncovered
    rw [contents_blockStep hfaithful, overlay, if_neg]
    exact fun hin ↦ huncovered ⟨hin.2.1, hin.2.2.2⟩
  beyond := by
    intro hfs hdisk hrange
    obtain ⟨dev, hdev⟩ : ∃ dev, system.disks[request.disk]? = some dev :=
      ⟨_, List.getElem?_eq_getElem hdisk⟩
    rw [diskSize_of_some hdev] at hrange
    rcases hfaithful hfs dev hdev with ⟨hin, -⟩ | ⟨hbeyond, hpos⟩
    · exact absurd hin hrange
    · have hdone : transferSegments dev system.buffer request.write request.pos request.segments =
          (dev, system.buffer, List.replicate request.segments.length eio) :=
        transferSegments_beyond hbeyond hpos
      constructor
      · simp only [serveRequest, hdev, hfs, if_true, hdone]
      · rw [disks_blockStep hdev hfs, hdone]
        exact set_of_getElem? hdev

/-! ### Runs -/

/-- After a run of faithful requests every sector holds what has last been written to it. -/
theorem contents_simpleRequest {start : BlockSystem} {requests : List BlkRequest}
    (hfaithful : Along blockStep Faithful start requests) :
    contents (simpleRequest start requests) = recalled start requests := by
  induction requests generalizing start with
  | nil => rfl
  | cons request rest ih =>
    have hrest := ih hfaithful.2
    rw [recalled, contents_blockStep hfaithful.1, diskSize_blockStep] at hrest
    exact hrest

/-- The disks are stores of sectors in every run of faithful requests. -/
theorem storeOfSectors_of_faithful (start : BlockSystem) (requests : List BlkRequest)
    (hfaithful : Along blockStep Faithful start requests) : StoreOfSectors start requests := by
  rintro before request after rfl
  obtain ⟨hbefore, hrequest, -⟩ := along_append.mp hfaithful
  rw [← contents_simpleRequest hbefore]
  exact requestOk_of_faithful hrequest

/-- A request of one segment for the first disk, from its first sector on. -/
def oneSegment (write : Bool) (segment : Segment) : BlkRequest := ⟨0, true, write, 0, [segment]⟩

theorem inRange_oneSegment (write : Bool) {segment : Segment} {size : ℕ}
    (hsize : segment.memory.length ≤ size) : (oneSegment write segment).InRange size := by
  rw [segment.length_memory] at hsize
  simpa [BlkRequest.InRange, BlkRequest.sectors, oneSegment] using hsize

theorem bytesAt_store_zero {dev : DiskDev} {bytes : List UInt8}
    (hsize : bytes.length ≤ dev.data.length) :
    bytesAt (dev.store 0 bytes).data 0 bytes.length = bytes := by
  have hread : bytesAt (writeAt dev.data 0 bytes) (0 + 0) bytes.length =
      bytesAt bytes 0 bytes.length := by
    apply bytesAt_writeAt_of_le
    · omega
    · omega
  exact hread.trans (bytesAt_self bytes)

/-- A write whose data is in the buffer, and a read into the same pages. -/
theorem along_writeThenRead (dev : DiskDev) (segment : Segment)
    (hsize : segment.memory.length ≤ dev.data.length) :
    Along blockStep Faithful ⟨[dev], segment.memory⟩
      [oneSegment true segment, oneSegment false segment] := by
  have hprepared : ∀ other ∈ [segment],
      bytesAt segment.memory 0 other.memory.length = other.memory := by
    intro other hother
    obtain rfl := List.mem_singleton.mp hother
    exact bytesAt_self _
  have hrange : (oneSegment true segment).InRange dev.data.length := inRange_oneSegment true hsize
  have hpayload : payload [segment] = segment.memory := List.append_nil _
  have hstored : (transferSegments dev segment.memory true 0 [segment]).1 =
      dev.store 0 (payload [segment]) := transferSegments_write hrange hprepared
  rw [hpayload] at hstored
  refine ⟨?_, ?_, trivial⟩
  · rintro - other ⟨rfl⟩
    exact Or.inl ⟨hrange, fun _ ↦ hprepared, nofun⟩
  · rintro - other hother
    have hdisks : (blockStep ⟨[dev], segment.memory⟩ (oneSegment true segment)).disks =
        [dev.store 0 segment.memory] := by
      rw [← hstored]
      exact disks_blockStep rfl rfl
    rw [hdisks] at hother
    obtain rfl : dev.store 0 segment.memory = other := Option.some.inj hother
    have hlength : (oneSegment false segment).sectors * 512 = segment.memory.length := by
      rw [← hpayload]
      exact (length_payload [segment]).symm
    refine Or.inl ⟨inRange_oneSegment false ?_, nofun, fun _ ↦ ?_⟩
    · rwa [DiskDev.store, length_writeAt]
    · have hoffset : (oneSegment false segment).pos.toNat * 512 = 0 := Nat.zero_mul 512
      rw [hlength, hoffset, bytesAt_store_zero hsize]
      exact hpayload

/-- A disk of one sector, filled with one byte. -/
def oneSector (byte : UInt8) : DiskDev :=
  ⟨512, List.replicate 512 byte, congrArg Nat.cast List.length_replicate⟩

/-- Pages for one sector, filled with one byte. -/
def onePage (byte : UInt8) : Segment := ⟨1, List.replicate 512 byte, List.length_replicate⟩

theorem storeOfSectors_of_faithful_writeThenRead :
    StoreOfSectors ⟨[oneSector 0], (onePage 1).memory⟩
      [oneSegment true (onePage 1), oneSegment false (onePage 1)] :=
  storeOfSectors_of_faithful _ _ (along_writeThenRead _ _ (by simp only [onePage, oneSector,
    List.length_replicate, le_refl]))

/-- A write of ones to a disk of zeros, and a read into pages of zeros. The read returns the
zeros. -/
theorem not_storeOfSectors_readBack :
    ¬StoreOfSectors ⟨[oneSector 0], (onePage 0).memory⟩
      [oneSegment true (onePage 1), oneSegment false (onePage 0)] := by
  intro hstore
  have hread := (hstore [oneSegment true (onePage 1)] (oneSegment false (onePage 0)) [] rfl).reads
    rfl rfl (by decide +kernel) (by decide +kernel) 0 (by decide)
  exact absurd hread (by decide +kernel)

end KernelModules.BlockDriver
