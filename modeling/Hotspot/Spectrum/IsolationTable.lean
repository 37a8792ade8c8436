import Hotspot.Spectrum.Channel

/-!
Estimated isolation between the channels of the upper band. A row belongs to a channel that must not
be disturbed, a column to the channel that would be used; both run over `Isolation.channels`. Larger
numbers isolate better.
-/

set_option autoImplicit false
set_option relaxedAutoImplicit false

namespace Hotspot.Isolation

/-- The channels that the tables cover, in the order of rows and columns. -/
def channels : List Channel :=
  [36, 40, 44, 48, 52, 56, 60, 64, 100, 104, 108, 112, 116, 120, 124, 128,
    132, 136, 140, 144]

def mhz20 : List (List Nat) := [
  [0, 251, 426, 550, 675, 790, 885, 960, 1000, 1000, 1000, 1000, 1000, 1000, 1000, 1000, 1000,
    1000, 1000, 1000],
  [244, 0, 254, 429, 553, 678, 793, 888, 1000, 1000, 1000, 1000, 1000, 1000, 1000, 1000, 1000,
    1000, 1000, 1000],
  [412, 247, 0, 257, 411, 556, 681, 796, 1000, 1000, 1000, 1000, 1000, 1000, 1000, 1000, 1000,
    1000, 1000, 1000],
  [550, 415, 250, 0, 260, 414, 559, 684, 1000, 1000, 1000, 1000, 1000, 1000, 1000, 1000, 1000,
    1000, 1000, 1000],
  [689, 553, 418, 253, 0, 242, 417, 562, 1000, 1000, 1000, 1000, 1000, 1000, 1000, 1000, 1000,
    1000, 1000, 1000],
  [797, 671, 556, 421, 256, 0, 245, 420, 1000, 1000, 1000, 1000, 1000, 1000, 1000, 1000, 1000,
    1000, 1000, 1000],
  [885, 800, 674, 559, 424, 259, 0, 248, 1000, 1000, 1000, 1000, 1000, 1000, 1000, 1000, 1000,
    1000, 1000, 1000],
  [953, 888, 782, 677, 562, 427, 241, 0, 1000, 1000, 1000, 1000, 1000, 1000, 1000, 1000, 1000,
    1000, 1000, 1000],
  [1000, 1000, 1000, 1000, 1000, 1000, 1000, 1000, 0, 257, 411, 556, 681, 796, 870, 945, 1000,
    1000, 1000, 1000],
  [1000, 1000, 1000, 1000, 1000, 1000, 1000, 1000, 250, 0, 260, 414, 559, 684, 799, 873, 948,
    1000, 1000, 1000],
  [1000, 1000, 1000, 1000, 1000, 1000, 1000, 1000, 418, 253, 0, 242, 417, 562, 687, 781, 876,
    951, 1000, 1000],
  [1000, 1000, 1000, 1000, 1000, 1000, 1000, 1000, 556, 421, 256, 0, 245, 420, 565, 690, 784,
    879, 954, 1000],
  [1000, 1000, 1000, 1000, 1000, 1000, 1000, 1000, 674, 559, 424, 259, 0, 248, 423, 568, 672,
    787, 882, 957],
  [1000, 1000, 1000, 1000, 1000, 1000, 1000, 1000, 782, 677, 562, 427, 241, 0, 251, 426, 550,
    675, 790, 885],
  [1000, 1000, 1000, 1000, 1000, 1000, 1000, 1000, 870, 785, 680, 565, 430, 244, 0, 254, 429,
    553, 678, 793],
  [1000, 1000, 1000, 1000, 1000, 1000, 1000, 1000, 959, 873, 788, 683, 568, 412, 247, 0, 257,
    411, 556, 681],
  [1000, 1000, 1000, 1000, 1000, 1000, 1000, 1000, 1000, 941, 876, 791, 686, 550, 415, 250, 0,
    260, 414, 559],
  [1000, 1000, 1000, 1000, 1000, 1000, 1000, 1000, 1000, 1000, 944, 879, 794, 689, 553, 418, 253,
    0, 242, 417],
  [1000, 1000, 1000, 1000, 1000, 1000, 1000, 1000, 1000, 1000, 1000, 947, 882, 797, 671, 556,
    421, 256, 0, 245],
  [1000, 1000, 1000, 1000, 1000, 1000, 1000, 1000, 1000, 1000, 1000, 1000, 950, 885, 800, 674,
    559, 424, 259, 0]]

def mhz40 : List (List Nat) := [
  [0, 121, 356, 340, 515, 520, 705, 710, 1000, 1000, 1000, 1000, 1000, 1000, 1000, 1000, 1000,
    1000, 1000, 1000],
  [114, 0, 354, 359, 513, 518, 703, 708, 1000, 1000, 1000, 1000, 1000, 1000, 1000, 1000, 1000,
    1000, 1000, 1000],
  [342, 347, 0, 127, 341, 346, 521, 526, 1000, 1000, 1000, 1000, 1000, 1000, 1000, 1000, 1000,
    1000, 1000, 1000],
  [340, 345, 120, 0, 360, 344, 519, 524, 1000, 1000, 1000, 1000, 1000, 1000, 1000, 1000, 1000,
    1000, 1000, 1000],
  [529, 513, 348, 353, 0, 112, 347, 352, 1000, 1000, 1000, 1000, 1000, 1000, 1000, 1000, 1000,
    1000, 1000, 1000],
  [527, 511, 346, 351, 126, 0, 345, 350, 1000, 1000, 1000, 1000, 1000, 1000, 1000, 1000, 1000,
    1000, 1000, 1000],
  [705, 710, 514, 519, 354, 359, 0, 118, 1000, 1000, 1000, 1000, 1000, 1000, 1000, 1000, 1000,
    1000, 1000, 1000],
  [703, 708, 512, 517, 352, 357, 111, 0, 1000, 1000, 1000, 1000, 1000, 1000, 1000, 1000, 1000,
    1000, 1000, 1000],
  [1000, 1000, 1000, 1000, 1000, 1000, 1000, 1000, 0, 127, 341, 346, 521, 526, 690, 695, 850,
    855, 1000, 1000],
  [1000, 1000, 1000, 1000, 1000, 1000, 1000, 1000, 120, 0, 360, 344, 519, 524, 709, 693, 848,
    853, 1000, 1000],
  [1000, 1000, 1000, 1000, 1000, 1000, 1000, 1000, 348, 353, 0, 112, 347, 352, 527, 511, 696,
    701, 856, 840],
  [1000, 1000, 1000, 1000, 1000, 1000, 1000, 1000, 346, 351, 126, 0, 345, 350, 525, 530, 694,
    699, 854, 859],
  [1000, 1000, 1000, 1000, 1000, 1000, 1000, 1000, 514, 519, 354, 359, 0, 118, 353, 358, 512,
    517, 702, 707],
  [1000, 1000, 1000, 1000, 1000, 1000, 1000, 1000, 512, 517, 352, 357, 111, 0, 351, 356, 510,
    515, 700, 705],
  [1000, 1000, 1000, 1000, 1000, 1000, 1000, 1000, 690, 695, 520, 525, 360, 344, 0, 124, 359,
    343, 518, 523],
  [1000, 1000, 1000, 1000, 1000, 1000, 1000, 1000, 709, 693, 518, 523, 358, 342, 117, 0, 357,
    341, 516, 521],
  [1000, 1000, 1000, 1000, 1000, 1000, 1000, 1000, 857, 841, 696, 701, 526, 510, 345, 350, 0,
    130, 344, 349],
  [1000, 1000, 1000, 1000, 1000, 1000, 1000, 1000, 855, 860, 694, 699, 524, 529, 343, 348, 123,
    0, 342, 347],
  [1000, 1000, 1000, 1000, 1000, 1000, 1000, 1000, 1000, 1000, 842, 847, 702, 707, 511, 516, 351,
    356, 0, 115],
  [1000, 1000, 1000, 1000, 1000, 1000, 1000, 1000, 1000, 1000, 840, 845, 700, 705, 530, 514, 349,
    354, 129, 0]]

def mhz80 : List (List Nat) := [
  [0, 101, 106, 90, 400, 430, 460, 490, 1000, 1000, 1000, 1000, 1000, 1000, 1000, 1000, 1000,
    1000, 1000, 1000],
  [94, 0, 104, 109, 373, 403, 433, 463, 1000, 1000, 1000, 1000, 1000, 1000, 1000, 1000, 1000,
    1000, 1000, 1000],
  [92, 97, 0, 107, 346, 376, 406, 436, 1000, 1000, 1000, 1000, 1000, 1000, 1000, 1000, 1000,
    1000, 1000, 1000],
  [90, 95, 100, 0, 340, 349, 379, 409, 1000, 1000, 1000, 1000, 1000, 1000, 1000, 1000, 1000,
    1000, 1000, 1000],
  [414, 373, 353, 333, 0, 92, 97, 102, 1000, 1000, 1000, 1000, 1000, 1000, 1000, 1000, 1000,
    1000, 1000, 1000],
  [437, 396, 376, 356, 106, 0, 95, 100, 1000, 1000, 1000, 1000, 1000, 1000, 1000, 1000, 1000,
    1000, 1000, 1000],
  [460, 440, 399, 379, 104, 109, 0, 98, 1000, 1000, 1000, 1000, 1000, 1000, 1000, 1000, 1000,
    1000, 1000, 1000],
  [483, 463, 422, 402, 102, 107, 91, 0, 1000, 1000, 1000, 1000, 1000, 1000, 1000, 1000, 1000,
    1000, 1000, 1000],
  [1000, 1000, 1000, 1000, 1000, 1000, 1000, 1000, 0, 107, 91, 96, 406, 436, 445, 475, 650, 655,
    660, 644],
  [1000, 1000, 1000, 1000, 1000, 1000, 1000, 1000, 100, 0, 110, 94, 379, 409, 439, 448, 648, 653,
    658, 642],
  [1000, 1000, 1000, 1000, 1000, 1000, 1000, 1000, 98, 103, 0, 92, 352, 382, 412, 421, 646, 651,
    656, 640],
  [1000, 1000, 1000, 1000, 1000, 1000, 1000, 1000, 96, 101, 106, 0, 325, 355, 385, 415, 644, 649,
    654, 659],
  [1000, 1000, 1000, 1000, 1000, 1000, 1000, 1000, 399, 379, 359, 339, 0, 98, 103, 108, 397, 427,
    457, 487],
  [1000, 1000, 1000, 1000, 1000, 1000, 1000, 1000, 422, 402, 382, 362, 91, 0, 101, 106, 370, 400,
    430, 460],
  [1000, 1000, 1000, 1000, 1000, 1000, 1000, 1000, 445, 425, 405, 385, 110, 94, 0, 104, 364, 373,
    403, 433],
  [1000, 1000, 1000, 1000, 1000, 1000, 1000, 1000, 489, 448, 428, 408, 108, 92, 97, 0, 337, 346,
    376, 406],
  [1000, 1000, 1000, 1000, 1000, 1000, 1000, 1000, 657, 641, 646, 651, 411, 370, 350, 330, 0,
    110, 94, 99],
  [1000, 1000, 1000, 1000, 1000, 1000, 1000, 1000, 655, 660, 644, 649, 434, 414, 373, 353, 103,
    0, 92, 97],
  [1000, 1000, 1000, 1000, 1000, 1000, 1000, 1000, 653, 658, 642, 647, 457, 437, 396, 376, 101,
    106, 0, 95],
  [1000, 1000, 1000, 1000, 1000, 1000, 1000, 1000, 651, 656, 640, 645, 480, 460, 440, 399, 99,
    104, 109, 0]]

end Hotspot.Isolation
