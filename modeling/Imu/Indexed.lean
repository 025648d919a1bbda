/-!
Values by number. A bank holds components of one kind, of which an operation replaces one at a
time. Readings come from outside, such as a clock or a pin: an unending sequence, of which each
look takes the first.
-/

namespace Imu

def Bank (α : Type) : Type := Nat → α

namespace Bank

variable {α : Type}

def get (bank : Bank α) (index : Nat) : α := bank index

def set (bank : Bank α) (index : Nat) (value : α) : Bank α := fun other =>
  if other = index then value else bank.get other

def fill (value : α) : Bank α := fun _ => value

def ofList (fallback : α) (values : List α) : Bank α := fun index => values.getD index fallback

@[simp] theorem get_set_self (bank : Bank α) (index : Nat) (value : α) :
    (bank.set index value).get index = value := if_pos rfl

theorem get_set_of_ne (bank : Bank α) {index other : Nat} (value : α) (apart : other ≠ index) :
    (bank.set index value).get other = bank.get other := if_neg apart

@[simp] theorem set_get (bank : Bank α) (index : Nat) : bank.set index (bank.get index) = bank := by
  funext other
  show (if other = index then bank.get index else bank.get other) = bank other
  split
  · next same => rw [same]; rfl
  · rfl

@[simp] theorem set_set (bank : Bank α) (index : Nat) (first second : α) :
    (bank.set index first).set index second = bank.set index second := by
  funext other
  show (if other = index then second else if other = index then first else bank.get other) =
    if other = index then second else bank.get other
  split <;> rfl

end Bank

def Readings (α : Type) : Type := Nat → α

namespace Readings

variable {α : Type}

def next (readings : Readings α) : α := readings 0

def rest (readings : Readings α) : Readings α := fun index => readings (index + 1)

def look (readings : Readings α) : α × Readings α := (readings.next, readings.rest)

/-- What is left when so many readings have been taken. -/
def drop (count : Nat) (readings : Readings α) : Readings α := fun index => readings (count + index)

def constant (value : α) : Readings α := fun _ => value

/-- Past its end a list goes on with its last value, an empty one with the fallback. -/
def ofList (fallback : α) (values : List α) : Readings α := fun index =>
  values.getD index (values.getLastD fallback)

theorem drop_zero (readings : Readings α) : readings.drop 0 = readings := by
  funext index
  exact congrArg readings (Nat.zero_add index)

theorem next_drop (count : Nat) (readings : Readings α) :
    (readings.drop count).next = readings count := rfl

theorem rest_drop (count : Nat) (readings : Readings α) :
    (readings.drop count).rest = readings.drop (count + 1) := by
  funext index
  exact congrArg readings (Nat.add_right_comm count index 1)

theorem drop_rest (count : Nat) (readings : Readings α) :
    readings.rest.drop count = readings.drop (count + 1) := readings.rest_drop count

end Readings

end Imu
