/-
This file models the file service: which file an upload writes, and how its workers
append the chunks.

The name of the file is joined to the directory of the user as it came, so where the chunk
goes is a matter of its `..` components and of a slash at its front. Tasks are dealt to the
workers in turn and each worker runs its own queue, so two chunks of one file are in the
hands of two workers, and only a queue keeps the order of what waits in it.
-/

import Wimi.Lib.Decimal
import Wimi.Lib.Paths
import Wimi.Lib.Transition

namespace Wimi.File.Upload

open Function List Transition Paths

/-! ### The file that is written -/

def getSaveFilePath : List Char := ['.', '/']

def saveDir (uid : Nat) : List Char := join getSaveFilePath (Nat.toDigits 10 uid)

/-- The name of a file is handed to `open` as a C string. -/
def cString (path : List Char) : List Char := path.takeWhile (· ≠ Char.ofNat 0)

/-- The file the handler opens, with `.` and `..` resolved. -/
def saveFilePath (workingDirectory : List Part) (uid : Nat) (filename : List Char) : List Part :=
  resolve workingDirectory (cString (join (saveDir uid) filename))

def userDirectory (workingDirectory : List Part) (uid : Nat) : List Part :=
  workingDirectory ++ [Nat.toDigits 10 uid]

/-- The name takes away no part of the directory that it does not put back; an absolute one
puts back all of it. -/
def StaysInside (directory : List Part) (name : List Char) : Prop :=
  (if isAbsolute name then directory
    else directory.drop (directory.length - (climb (0, []) (parts name)).1)) <+:
    (climb (0, []) (parts name)).2

theorem not_mem_toDigits (uid : Nat) (letter : Char) (other : letter.isDigit = false) :
    letter ∉ Nat.toDigits 10 uid := fun member =>
  Bool.false_ne_true (other.symm.trans
    (Nat.isDigit_of_mem_toDigits (by decide) (by decide) member))

theorem saveDir_eq (uid : Nat) : saveDir uid = ['.'] ++ '/' :: Nat.toDigits 10 uid := by
  have relative : isAbsolute (Nat.toDigits 10 uid) = false :=
    decide_eq_false fun first => not_mem_toDigits uid '/' rfl (mem_of_head? first)
  rw [saveDir, join, relative]
  rfl

theorem saveDir_slashless (uid : Nat) : Slashless (saveDir uid) := by
  rw [saveDir_eq]
  refine ⟨cons_ne_nil _ _, fun last => not_mem_toDigits uid '/' rfl ?_⟩
  refine mem_of_getLast? (Eq.trans ?_ last)
  exact (getLast?_append_of_ne_nil ['.', '/'] Nat.toDigits_ne_nil).symm

theorem resolve_saveDir (workingDirectory : List Part) (uid : Nat) :
    resolve workingDirectory (saveDir uid) = userDirectory workingDirectory uid := by
  have dotless := not_mem_toDigits uid '.' rfl
  have isName : Nat.toDigits 10 uid ≠ up := fun dots => dotless (dots ▸ mem_cons_self)
  have named : parts (Nat.toDigits 10 uid) = [Nat.toDigits 10 uid] :=
    parts_singleton (not_mem_toDigits uid '/' rfl)
      ⟨Nat.toDigits_ne_nil, fun dot => dotless (dot ▸ mem_singleton_self _)⟩
  rw [resolve, saveDir_eq, parts_append, named]
  exact if_neg isName

/-- Cutting the joined path at a NUL cuts the name. -/
theorem cString_join (uid : Nat) (filename : List Char) :
    cString (join (saveDir uid) filename) = join (saveDir uid) (cString filename) := by
  have front : isAbsolute (cString filename) = isAbsolute filename := by
    cases filename with
    | nil => rfl
    | cons first rest => by_cases nul : first = Char.ofNat 0 <;> simp [cString, isAbsolute, nul]
  have cut : ∀ rest, cString (saveDir uid ++ rest) = saveDir uid ++ cString rest := by
    refine fun rest => takeWhile_append_of_pos fun letter member => decide_eq_true ?_
    rintro rfl
    refine not_mem_toDigits uid (Char.ofNat 0) rfl ?_
    simpa [saveDir_eq] using member
  rw [join_of_slashless (saveDir_slashless uid), join_of_slashless (saveDir_slashless uid), front]
  split_ifs
  · rfl
  · exact cut _

theorem saveFilePath_inside_iff (workingDirectory : List Part) (uid : Nat)
    (filename : List Char) :
    userDirectory workingDirectory uid <+: saveFilePath workingDirectory uid filename ↔
      StaysInside (userDirectory workingDirectory uid) (cString filename) := by
  rw [saveFilePath, cString_join, resolve_join workingDirectory (saveDir_slashless uid),
    resolve_saveDir, StaysInside]
  split_ifs
  · rw [foldl_enter_nil]
  · exact isPrefix_foldl_enter_iff _ _

/-! ### The workers -/

inductive FileType
  | TEXT
  | IMAGE
deriving DecidableEq

structure FileChunk where
  seq : Int
  filename : List Char
  type : FileType
  data : List UInt8
deriving DecidableEq

structure UploadRequest where
  userId : Nat
  chunk : Option FileChunk
deriving DecidableEq

/-- The file the handler of a request appends to, and what it appends. Without a chunk or
without a name it only logs. The file is taken to open: the error of one that does not is
only printed. -/
def write (workingDirectory : List Part) (request : UploadRequest) :
    Option (List Part × List UInt8) :=
  match request.chunk with
  | none => none
  | some chunk =>
    if chunk.filename = [] then none
    else some (saveFilePath workingDirectory request.userId chunk.filename, chunk.data)

structure FileServiceImpl where
  workerSize : Nat
  /-- The queue of each `FileWorker`. -/
  workers : Nat → List UploadRequest := fun _ => []
  routeCount : Nat := 0
  files : List Part → List UInt8 := fun _ => []

/-- `FileServiceImpl::Upload` copies the request into a task and answers OK. -/
def pushTask (service : FileServiceImpl) (request : UploadRequest) : FileServiceImpl :=
  { service with
    workers := update service.workers service.routeCount
      (service.workers service.routeCount ++ [request])
    routeCount := if service.routeCount + 1 ≥ service.workerSize then 0
      else service.routeCount + 1 }

theorem pushTask_routed (service : FileServiceImpl) (request : UploadRequest) :
    (pushTask service request).workers service.routeCount =
      service.workers service.routeCount ++ [request] :=
  update_self ..

theorem pushTask_other {service : FileServiceImpl} {worker : Nat}
    (other : worker ≠ service.routeCount) (request : UploadRequest) :
    (pushTask service request).workers worker = service.workers worker :=
  update_of_ne other ..

@[simp]
theorem pushTask_files (service : FileServiceImpl) (request : UploadRequest) :
    (pushTask service request).files = service.files := rfl

def process (workingDirectory : List Part) (request : UploadRequest)
    (files : List Part → List UInt8) : List Part → List UInt8 :=
  match write workingDirectory request with
  | none => files
  | some (path, data) => update files path (files path ++ data)

inductive Action
  | upload (request : UploadRequest)
  /-- A worker runs the task at the front of its queue. -/
  | work (worker : Nat)

def step (workingDirectory : List Part) (service : FileServiceImpl) :
    Action → Option FileServiceImpl
  | .upload request => some (pushTask service request)
  | .work worker =>
    match service.workers worker with
    | [] => none
    | task :: rest =>
      some { service with
        workers := update service.workers worker rest
        files := process workingDirectory task service.files }

/-! ### The order of the chunks of one file -/

variable (workingDirectory : List Part) (path : List Part)

def dataFor (request : UploadRequest) : List UInt8 :=
  match write workingDirectory request with
  | none => []
  | some (written, data) => if written = path then data else []

theorem process_apply (request : UploadRequest) (files : List Part → List UInt8) :
    process workingDirectory request files path =
      files path ++ dataFor workingDirectory path request := by
  rw [process, dataFor]
  cases write workingDirectory request with
  | none => exact (append_nil _).symm
  | some target => grind

def Untouched (queue : List UploadRequest) : Prop :=
  ∀ task ∈ queue, ∀ target ∈ write workingDirectory task, target.1 ≠ path

def Holds (service : FileServiceImpl) (content : List UInt8) : Prop :=
  ∃ worker, (∀ other ≠ worker, Untouched workingDirectory path (service.workers other)) ∧
    service.files path ++ (service.workers worker).flatMap (dataFor workingDirectory path) =
      content

/-- A request for the file is dealt to a worker while no other has one for it. -/
def OneQueue (service : FileServiceImpl) : Action → Prop
  | .upload request => (∃ target ∈ write workingDirectory request, target.1 = path) →
      ∀ other ≠ service.routeCount, Untouched workingDirectory path (service.workers other)
  | .work _ => True

def uploaded : Action → List UInt8
  | .upload request => dataFor workingDirectory path request
  | .work _ => []

variable {workingDirectory path} {service next : FileServiceImpl} {content : List UInt8}

theorem dataFor_eq_nil {request : UploadRequest}
    (other : ∀ target ∈ write workingDirectory request, target.1 ≠ path) :
    dataFor workingDirectory path request = [] := by
  simp only [dataFor]
  split
  · rfl
  · exact if_neg (other _ ‹_›)

theorem Untouched.flatMap_eq_nil {queue : List UploadRequest}
    (untouched : Untouched workingDirectory path queue) :
    queue.flatMap (dataFor workingDirectory path) = [] :=
  flatMap_eq_nil_iff.mpr fun task member => dataFor_eq_nil (untouched task member)

section

variable (holds : Holds workingDirectory path service content)
include holds

theorem Holds.upload (request : UploadRequest)
    (oneQueue : OneQueue workingDirectory path service (.upload request)) :
    Holds workingDirectory path (pushTask service request)
      (content ++ dataFor workingDirectory path request) := by
  obtain ⟨worker, others, rfl⟩ := holds
  by_cases writes : ∃ target ∈ write workingDirectory request, target.1 = path
  · have untouched := oneQueue writes
    refine ⟨service.routeCount, fun other different => ?_, ?_⟩
    · grind [pushTask_other]
    rw [pushTask_files, pushTask_routed, flatMap_append, flatMap_singleton,
      ← append_assoc]
    by_cases same : worker = service.routeCount
    · rw [same]
    · rw [(untouched worker same).flatMap_eq_nil,
        (others service.routeCount (Ne.symm same)).flatMap_eq_nil]
  have silent : ∀ target ∈ write workingDirectory request, target.1 ≠ path :=
    fun target found same => writes ⟨target, found, same⟩
  refine ⟨worker, fun other different => ?_, ?_⟩
  · by_cases routed : other = service.routeCount
    · rw [routed, pushTask_routed]
      exact forall_mem_append.mpr
        ⟨others _ (routed ▸ different), forall_mem_singleton.mpr silent⟩
    · rw [pushTask_other routed]
      exact others other different
  rw [pushTask_files, dataFor_eq_nil silent, append_nil]
  by_cases routed : worker = service.routeCount
  · rw [routed, pushTask_routed, flatMap_append, flatMap_singleton,
      dataFor_eq_nil silent, append_nil]
  · rw [pushTask_other routed]

theorem Holds.work {worker : Nat} {task : UploadRequest} {rest : List UploadRequest}
    (front : service.workers worker = task :: rest) : Holds workingDirectory path
      { service with
        workers := update service.workers worker rest
        files := process workingDirectory task service.files } content := by
  obtain ⟨holder, others, rfl⟩ := holds
  refine ⟨holder, fun other different => ?_, ?_⟩ <;> dsimp only
  · by_cases working : other = worker
    · subst working
      rw [update_self]
      exact (forall_mem_cons.mp (front ▸ others _ different)).2
    · grind
  rw [process_apply]
  by_cases working : holder = worker
  · grind
  · have first := (forall_mem_cons.mp (front ▸ others _ (Ne.symm working))).1
    rw [update_of_ne working, dataFor_eq_nil first, append_nil]

theorem Holds.step {action : Action} (oneQueue : OneQueue workingDirectory path service action)
    (taken : step workingDirectory service action = some next) :
    Holds workingDirectory path next (content ++ uploaded workingDirectory path action) := by
  cases action with
  | upload request =>
    obtain rfl := Option.some.inj taken
    exact holds.upload request oneQueue
  | work worker =>
    simp only [Upload.step] at taken
    split at taken
    · cases taken
    obtain rfl := Option.some.inj taken
    rw [uploaded, append_nil]
    exact holds.work ‹_›

theorem Holds.run {actions : List Action}
    (along : Transition.Along (Upload.step workingDirectory) (OneQueue workingDirectory path)
      service actions)
    (taken : run (Upload.step workingDirectory) service actions = some next) :
    Holds workingDirectory path next
      (content ++ actions.flatMap (uploaded workingDirectory path)) := by
  induction actions generalizing service content with
  | nil =>
    obtain rfl := Option.some.inj taken
    rwa [flatMap_nil, append_nil]
  | cons action rest inductionHypothesis =>
    obtain ⟨middle, first, later⟩ := run_cons_eq_some.mp taken
    rw [flatMap_cons, ← append_assoc]
    exact inductionHypothesis (holds.step along.1 first) (along.2 middle first) later

end

def IsFor (uid : Nat) (filename : List Char) (request : UploadRequest) : Prop :=
  request.userId = uid ∧ ∃ chunk ∈ request.chunk, chunk.filename = filename

def chunkData (uid : Nat) (filename : List Char) : Action → List UInt8
  | .upload ⟨userId, some chunk⟩ =>
    if userId = uid ∧ chunk.filename = filename then chunk.data else []
  | _ => []

theorem uploaded_eq_chunkData {uid : Nat} {filename : List Char} (named : filename ≠ [])
    {action : Action}
    (alone : ∀ request, action = .upload request →
      (∃ target ∈ write workingDirectory request,
        target.1 = saveFilePath workingDirectory uid filename) → IsFor uid filename request) :
    uploaded workingDirectory (saveFilePath workingDirectory uid filename) action =
      chunkData uid filename action := by
  cases action with
  | work => rfl
  | upload request =>
    obtain ⟨userId, _ | chunk⟩ := request
    · rfl
    rw [uploaded, chunkData]
    split_ifs with isFor
    · obtain ⟨rfl, rfl⟩ := isFor
      simp [dataFor, write, named]
    refine dataFor_eq_nil fun target found same => isFor ?_
    obtain ⟨owner, _, ⟨⟩, name⟩ := alone _ rfl ⟨target, found, same⟩
    exact ⟨owner, name⟩

/-- The chunks of a file are appended in the order of their requests, if each is dealt to a
worker while no other worker has one, and no other name leads to the file. -/
theorem upload_order {uid : Nat} {filename : List Char} (named : filename ≠ [])
    {final : FileServiceImpl} {actions : List Action}
    (idle : ∀ worker, Untouched workingDirectory (saveFilePath workingDirectory uid filename)
      (service.workers worker))
    (taken : run (step workingDirectory) service actions = some final)
    (oneQueue : Transition.Along (step workingDirectory)
      (OneQueue workingDirectory (saveFilePath workingDirectory uid filename)) service actions)
    (alone : ∀ request, .upload request ∈ actions →
      (∃ target ∈ write workingDirectory request,
        target.1 = saveFilePath workingDirectory uid filename) → IsFor uid filename request)
    (done : ∀ worker, final.workers worker = []) :
    final.files (saveFilePath workingDirectory uid filename) =
      service.files (saveFilePath workingDirectory uid filename) ++
        actions.flatMap (chunkData uid filename) := by
  have start : Holds workingDirectory (saveFilePath workingDirectory uid filename) service
      (service.files (saveFilePath workingDirectory uid filename)) :=
    ⟨0, fun other _ => idle other, by rw [(idle 0).flatMap_eq_nil, append_nil]⟩
  obtain ⟨worker, -, content⟩ := start.run oneQueue taken
  rw [done, flatMap_nil, append_nil] at content
  have same : ∀ action ∈ actions,
      uploaded workingDirectory _ action = chunkData uid filename action :=
    fun action member => uploaded_eq_chunkData named fun request isUpload =>
      alone request (isUpload ▸ member)
  rw [content, flatMap_congr same]

def byteUpload (byte : UInt8) : Action :=
  .upload ⟨7, some ⟨byte.toNat, ['a'], .TEXT, [byte]⟩⟩

def serviceAfter (workerSize : Nat) (actions : List Action) : FileServiceImpl :=
  (run (step []) { workerSize } actions).getD { workerSize }

theorem upload_order_one_worker :
    (serviceAfter 1 [byteUpload 1, byteUpload 2, .work 0, .work 0]).files
      (saveFilePath [] 7 ['a']) = [1, 2] := by
  have empty : Untouched [] (saveFilePath [] 7 ['a']) [] := fun _ member =>
    absurd member not_mem_nil
  have oneQueue : Transition.Along (step []) (OneQueue [] (saveFilePath [] 7 ['a']))
      { workerSize := 1 } [byteUpload 1, byteUpload 2, .work 0, .work 0] := by
    refine along_cons (fun _ _ _ => empty) rfl (along_cons ?_ rfl
      (along_cons trivial rfl (along_cons trivial rfl trivial)))
    rintro _ (_ | other) different
    · exact absurd rfl different
    · exact empty
  refine (upload_order (by decide) (fun _ => empty) rfl oneQueue ?_ ?_).trans rfl
  · simp [byteUpload, IsFor]
  · rintro (_ | worker) <;> rfl

theorem two_workers_reorder :
    (serviceAfter 2 [byteUpload 1, byteUpload 2, .work 1, .work 0]).files
        (saveFilePath [] 7 ['a']) = [2, 1] ∧
      (∀ worker < 2,
        (serviceAfter 2 [byteUpload 1, byteUpload 2, .work 1, .work 0]).workers worker = []) ∧
      [byteUpload 1, byteUpload 2, .work 1, .work 0].flatMap (chunkData 7 ['a']) = [1, 2] := by
  decide

end Wimi.File.Upload
