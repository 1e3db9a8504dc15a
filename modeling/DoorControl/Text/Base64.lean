/- Base64 with the standard alphabet and padding. -/

namespace DoorControl.Text.Base64

def alphabet : List Char :=
  "ABCDEFGHIJKLMNOPQRSTUVWXYZabcdefghijklmnopqrstuvwxyz0123456789+/".toList

def sextet (n : Nat) : Char := alphabet.getD (n % 64) 'A'

def encode : List UInt8 → List Char
  | a :: b :: c :: rest =>
      let n := a.toNat * 65536 + b.toNat * 256 + c.toNat
      sextet (n / 262144) :: sextet (n / 4096) :: sextet (n / 64) :: sextet n :: encode rest
  | [a, b] =>
      let n := a.toNat * 65536 + b.toNat * 256
      [sextet (n / 262144), sextet (n / 4096), sextet (n / 64), '=']
  | [a] =>
      let n := a.toNat * 65536
      [sextet (n / 262144), sextet (n / 4096), '=', '=']
  | [] => []

end DoorControl.Text.Base64
