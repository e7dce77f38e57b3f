import TemporalMonitor.Unicode.Runs

/-!
The general category of every code point.
-/

namespace TemporalMonitor.Unicode

def categoryText : String :=
    "32Cc 1Zs 3Po 1Sc 3Po 1Ps 1Pe 1Po 1Sm 1Po 1Pd 2Po 10Nd 2Po 3Sm 2Po 26Lu 1Ps 1Po 1Pe 1Sk 1Pc 1Sk
    26Ll 1Ps 1Sm 1Pe 1Sm 33Cc 1Zs 1Po 4Sc 1So 1Po 1Sk 1So 1Lo 1Pi 1Sm 1Cf 1So 1Sk 1So 1Sm 2No 1Sk
    1Ll 2Po 1Sk 1No 1Lo 1Pf 3No 1Po 23Lu 1Sm 7Lu 24Ll 1Sm 8Ll 1Lu 1Ll 1Lu 1Ll 1Lu 1Ll 1Lu 1Ll 1Lu
    1Ll 1Lu 1Ll 1Lu 1Ll 1Lu 1Ll 1Lu 1Ll 1Lu 1Ll 1Lu 1Ll 1Lu 1Ll 1Lu 1Ll 1Lu 1Ll 1Lu 1Ll 1Lu 1Ll 1Lu
    1Ll 1Lu 1Ll 1Lu 1Ll 1Lu 1Ll 1Lu 1Ll 1Lu 1Ll 1Lu 1Ll 1Lu 1Ll 1Lu 1Ll 1Lu 1Ll 1Lu 1Ll 1Lu 2Ll 1Lu
    1Ll 1Lu 1Ll 1Lu 1Ll 1Lu 1Ll 1Lu 1Ll 1Lu 1Ll 1Lu 1Ll 1Lu 2Ll 1Lu 1Ll 1Lu 1Ll 1Lu 1Ll 1Lu 1Ll 1Lu
    1Ll 1Lu 1Ll 1Lu 1Ll 1Lu 1Ll 1Lu 1Ll 1Lu 1Ll 1Lu 1Ll 1Lu 1Ll 1Lu 1Ll 1Lu 1Ll 1Lu 1Ll 1Lu 1Ll 1Lu
    1Ll 1Lu 1Ll 1Lu 1Ll 1Lu 1Ll 1Lu 1Ll 1Lu 1Ll 1Lu 1Ll 2Lu 1Ll 1Lu 1Ll 1Lu 3Ll 2Lu 1Ll 1Lu 1Ll 2Lu
    1Ll 3Lu 2Ll 4Lu 1Ll 2Lu 1Ll 3Lu 3Ll 2Lu 1Ll 2Lu 1Ll 1Lu 1Ll 1Lu 1Ll 2Lu 1Ll 1Lu 2Ll 1Lu 1Ll 2Lu
    1Ll 3Lu 1Ll 1Lu 1Ll 2Lu 2Ll 1Lo 1Lu 3Ll 4Lo 1Lu 1Lt 1Ll 1Lu 1Lt 1Ll 1Lu 1Lt 1Ll 1Lu 1Ll 1Lu 1Ll
    1Lu 1Ll 1Lu 1Ll 1Lu 1Ll 1Lu 1Ll 1Lu 1Ll 1Lu 2Ll 1Lu 1Ll 1Lu 1Ll 1Lu 1Ll 1Lu 1Ll 1Lu 1Ll 1Lu 1Ll
    1Lu 1Ll 1Lu 1Ll 1Lu 2Ll 1Lu 1Lt 1Ll 1Lu 1Ll 3Lu 1Ll 1Lu 1Ll 1Lu 1Ll 1Lu 1Ll 1Lu 1Ll 1Lu 1Ll 1Lu
    1Ll 1Lu 1Ll 1Lu 1Ll 1Lu 1Ll 1Lu 1Ll 1Lu 1Ll 1Lu 1Ll 1Lu 1Ll 1Lu 1Ll 1Lu 1Ll 1Lu 1Ll 1Lu 1Ll 1Lu
    1Ll 1Lu 1Ll 1Lu 1Ll 1Lu 1Ll 1Lu 1Ll 1Lu 1Ll 1Lu 1Ll 1Lu 1Ll 1Lu 1Ll 1Lu 1Ll 1Lu 1Ll 1Lu 7Ll 2Lu
    1Ll 2Lu 2Ll 1Lu 1Ll 4Lu 1Ll 1Lu 1Ll 1Lu 1Ll 1Lu 1Ll 1Lu 69Ll 1Lo 27Ll 18Lm 4Sk 12Lm 14Sk 5Lm 7Sk
    1Lm 1Sk 1Lm 17Sk 112Mn 1Lu 1Ll 1Lu 1Ll 1Lm 1Sk 1Lu 1Ll 2Cn 1Lm 3Ll 1Po 1Lu 4Cn 2Sk 1Lu 1Po 3Lu
    1Cn 1Lu 1Cn 2Lu 1Ll 17Lu 1Cn 9Lu 35Ll 1Lu 2Ll 3Lu 3Ll 1Lu 1Ll 1Lu 1Ll 1Lu 1Ll 1Lu 1Ll 1Lu 1Ll
    1Lu 1Ll 1Lu 1Ll 1Lu 1Ll 1Lu 1Ll 1Lu 1Ll 1Lu 1Ll 1Lu 5Ll 1Lu 1Ll 1Sm 1Lu 1Ll 2Lu 2Ll 51Lu 48Ll
    1Lu 1Ll 1Lu 1Ll 1Lu 1Ll 1Lu 1Ll 1Lu 1Ll 1Lu 1Ll 1Lu 1Ll 1Lu 1Ll 1Lu 1Ll 1Lu 1Ll 1Lu 1Ll 1Lu 1Ll
    1Lu 1Ll 1Lu 1Ll 1Lu 1Ll 1Lu 1Ll 1Lu 1Ll 1So 5Mn 2Me 1Lu 1Ll 1Lu 1Ll 1Lu 1Ll 1Lu 1Ll 1Lu 1Ll 1Lu
    1Ll 1Lu 1Ll 1Lu 1Ll 1Lu 1Ll 1Lu 1Ll 1Lu 1Ll 1Lu 1Ll 1Lu 1Ll 1Lu 1Ll 1Lu 1Ll 1Lu 1Ll 1Lu 1Ll 1Lu
    1Ll 1Lu 1Ll 1Lu 1Ll 1Lu 1Ll 1Lu 1Ll 1Lu 1Ll 1Lu 1Ll 1Lu 1Ll 1Lu 1Ll 1Lu 1Ll 2Lu 1Ll 1Lu 1Ll 1Lu
    1Ll 1Lu 1Ll 1Lu 1Ll 1Lu 1Ll 1Lu 2Ll 1Lu 1Ll 1Lu 1Ll 1Lu 1Ll 1Lu 1Ll 1Lu 1Ll 1Lu 1Ll 1Lu 1Ll 1Lu
    1Ll 1Lu 1Ll 1Lu 1Ll 1Lu 1Ll 1Lu 1Ll 1Lu 1Ll 1Lu 1Ll 1Lu 1Ll 1Lu 1Ll 1Lu 1Ll 1Lu 1Ll 1Lu 1Ll 1Lu
    1Ll 1Lu 1Ll 1Lu 1Ll 1Lu 1Ll 1Lu 1Ll 1Lu 1Ll 1Lu 1Ll 1Lu 1Ll 1Lu 1Ll 1Lu 1Ll 1Lu 1Ll 1Lu 1Ll 1Lu
    1Ll 1Lu 1Ll 1Lu 1Ll 1Lu 1Ll 1Lu 1Ll 1Lu 1Ll 1Lu 1Ll 1Lu 1Ll 1Lu 1Ll 1Lu 1Ll 1Lu 1Ll 1Lu 1Ll 1Lu
    1Ll 1Lu 1Ll 1Lu 1Ll 1Lu 1Ll 1Lu 1Ll 1Cn 38Lu 2Cn 1Lm 6Po 41Ll 1Po 1Pd 2Cn 2So 1Sc 1Cn 45Mn 1Pd
    1Mn 1Po 2Mn 1Po 2Mn 1Po 1Mn 8Cn 27Lo 4Cn 4Lo 2Po 11Cn 6Cf 3Sm 2Po 1Sc 2Po 2So 11Mn 1Po 1Cf 3Po
    32Lo 1Lm 10Lo 21Mn 10Nd 4Po 2Lo 1Mn 99Lo 1Po 1Lo 7Mn 1Cf 1So 6Mn 2Lm 2Mn 1So 4Mn 2Lo 10Nd 3Lo
    2So 1Lo 14Po 1Cn 1Cf 1Lo 1Mn 30Lo 27Mn 2Cn 89Lo 11Mn 1Lo 14Cn 10Nd 33Lo 9Mn 2Lm 1So 3Po 1Lm 2Cn
    1Mn 2Sc 22Lo 4Mn 1Lm 9Mn 1Lm 3Mn 1Lm 5Mn 2Cn 15Po 1Cn 25Lo 3Mn 2Cn 1Po 1Cn 11Lo 5Cn 24Lo 1Sk 6Lo
    1Cn 2Cf 5Cn 9Mn 41Lo 1Lm 24Mn 1Cf 32Mn 1Mc 54Lo 1Mn 1Mc 1Mn 1Lo 3Mc 8Mn 4Mc 1Mn 2Mc 1Lo 7Mn 10Lo
    2Mn 2Po 10Nd 1Po 1Lm 15Lo 1Mn 2Mc 1Cn 8Lo 2Cn 2Lo 2Cn 22Lo 1Cn 7Lo 1Cn 1Lo 3Cn 4Lo 2Cn 1Mn 1Lo
    3Mc 4Mn 2Cn 2Mc 2Cn 2Mc 1Mn 1Lo 8Cn 1Mc 4Cn 2Lo 1Cn 3Lo 2Mn 2Cn 10Nd 2Lo 2Sc 6No 1So 1Sc 1Lo 1Po
    1Mn 2Cn 2Mn 1Mc 1Cn 6Lo 4Cn 2Lo 2Cn 22Lo 1Cn 7Lo 1Cn 2Lo 1Cn 2Lo 1Cn 2Lo 2Cn 1Mn 1Cn 3Mc 2Mn 4Cn
    2Mn 2Cn 3Mn 3Cn 1Mn 7Cn 4Lo 1Cn 1Lo 7Cn 10Nd 2Mn 3Lo 1Mn 1Po 10Cn 2Mn 1Mc 1Cn 9Lo 1Cn 3Lo 1Cn
    22Lo 1Cn 7Lo 1Cn 2Lo 1Cn 5Lo 2Cn 1Mn 1Lo 3Mc 5Mn 1Cn 2Mn 1Mc 1Cn 2Mc 1Mn 2Cn 1Lo 15Cn 2Lo 2Mn
    2Cn 10Nd 1Po 1Sc 7Cn 1Lo 6Mn 1Cn 1Mn 2Mc 1Cn 8Lo 2Cn 2Lo 2Cn 22Lo 1Cn 7Lo 1Cn 2Lo 1Cn 5Lo 2Cn
    1Mn 1Lo 1Mc 1Mn 1Mc 4Mn 2Cn 2Mc 2Cn 2Mc 1Mn 7Cn 2Mn 1Mc 4Cn 2Lo 1Cn 3Lo 2Mn 2Cn 10Nd 1So 1Lo 6No
    10Cn 1Mn 1Lo 1Cn 6Lo 3Cn 3Lo 1Cn 4Lo 3Cn 2Lo 1Cn 1Lo 1Cn 2Lo 3Cn 2Lo 3Cn 3Lo 3Cn 12Lo 4Cn 2Mc
    1Mn 2Mc 3Cn 3Mc 1Cn 3Mc 1Mn 2Cn 1Lo 6Cn 1Mc 14Cn 10Nd 3No 6So 1Sc 1So 5Cn 1Mn 3Mc 1Mn 8Lo 1Cn
    3Lo 1Cn 23Lo 1Cn 16Lo 2Cn 1Mn 1Lo 3Mn 4Mc 1Cn 3Mn 1Cn 4Mn 7Cn 2Mn 1Cn 3Lo 2Cn 1Lo 2Cn 2Lo 2Mn
    2Cn 10Nd 7Cn 1Po 7No 1So 1Lo 1Mn 2Mc 1Po 8Lo 1Cn 3Lo 1Cn 23Lo 1Cn 10Lo 1Cn 5Lo 2Cn 1Mn 1Lo 1Mc
    1Mn 5Mc 1Cn 1Mn 2Mc 1Cn 2Mc 2Mn 7Cn 2Mc 6Cn 2Lo 1Cn 2Lo 2Mn 2Cn 10Nd 1Cn 2Lo 1Mc 12Cn 2Mn 2Mc
    9Lo 1Cn 3Lo 1Cn 41Lo 2Mn 1Lo 3Mc 4Mn 1Cn 3Mc 1Cn 3Mc 1Mn 1Lo 1So 4Cn 3Lo 1Mc 7No 3Lo 2Mn 2Cn
    10Nd 9No 1So 6Lo 1Cn 1Mn 2Mc 1Cn 18Lo 3Cn 24Lo 1Cn 9Lo 1Cn 1Lo 2Cn 7Lo 3Cn 1Mn 4Cn 3Mc 3Mn 1Cn
    1Mn 1Cn 8Mc 6Cn 10Nd 2Cn 2Mc 1Po 12Cn 48Lo 1Mn 2Lo 7Mn 4Cn 1Sc 6Lo 1Lm 8Mn 1Po 10Nd 2Po 37Cn 2Lo
    1Cn 1Lo 1Cn 5Lo 1Cn 24Lo 1Cn 1Lo 1Cn 10Lo 1Mn 2Lo 9Mn 1Lo 2Cn 5Lo 1Cn 1Lm 1Cn 7Mn 1Cn 10Nd 2Cn
    4Lo 32Cn 1Lo 3So 15Po 1So 1Po 3So 2Mn 6So 10Nd 10No 1So 1Mn 1So 1Mn 1So 1Mn 1Ps 1Pe 1Ps 1Pe 2Mc
    8Lo 1Cn 36Lo 4Cn 14Mn 1Mc 5Mn 1Po 2Mn 5Lo 11Mn 1Cn 36Mn 1Cn 8So 1Mn 6So 1Cn 2So 5Po 4So 2Po 37Cn
    43Lo 2Mc 4Mn 1Mc 6Mn 1Mc 2Mn 2Mc 2Mn 1Lo 10Nd 6Po 6Lo 2Mc 2Mn 4Lo 3Mn 1Lo 3Mc 2Lo 7Mc 3Lo 4Mn
    13Lo 1Mn 2Mc 2Mn 6Mc 1Mn 1Lo 1Mc 10Nd 3Mc 1Mn 2So 38Lu 1Cn 1Lu 5Cn 1Lu 2Cn 43Ll 1Po 1Lm 3Ll
    329Lo 1Cn 4Lo 2Cn 7Lo 1Cn 1Lo 1Cn 4Lo 2Cn 41Lo 1Cn 4Lo 2Cn 33Lo 1Cn 4Lo 2Cn 7Lo 1Cn 1Lo 1Cn 4Lo
    2Cn 15Lo 1Cn 57Lo 1Cn 4Lo 2Cn 67Lo 2Cn 3Mn 9Po 20No 3Cn 16Lo 10So 6Cn 86Lu 2Cn 6Ll 2Cn 1Pd 620Lo
    1So 1Po 17Lo 1Zs 26Lo 1Ps 1Pe 3Cn 75Lo 3Po 3Nl 8Lo 7Cn 18Lo 3Mn 1Mc 9Cn 19Lo 2Mn 1Mc 2Po 9Cn
    18Lo 2Mn 12Cn 13Lo 1Cn 3Lo 1Cn 2Mn 12Cn 52Lo 2Mn 1Mc 7Mn 8Mc 1Mn 2Mc 11Mn 3Po 1Lm 3Po 1Sc 1Lo
    1Mn 2Cn 10Nd 6Cn 10No 6Cn 6Po 1Pd 4Po 3Mn 1Cf 1Mn 10Nd 6Cn 35Lo 1Lm 53Lo 7Cn 5Lo 2Mn 34Lo 1Mn
    1Lo 5Cn 70Lo 10Cn 31Lo 1Cn 3Mn 4Mc 2Mn 3Mc 4Cn 2Mc 1Mn 6Mc 3Mn 4Cn 1So 3Cn 2Po 10Nd 30Lo 2Cn 5Lo
    11Cn 44Lo 4Cn 26Lo 6Cn 10Nd 1No 3Cn 34So 23Lo 2Mn 2Mc 1Mn 2Cn 2Po 53Lo 1Mc 1Mn 1Mc 7Mn 1Cn 1Mn
    1Mc 1Mn 2Mc 8Mn 6Mc 10Mn 2Cn 1Mn 10Nd 6Cn 10Nd 6Cn 7Po 1Lm 6Po 2Cn 14Mn 1Me 16Mn 49Cn 4Mn 1Mc
    47Lo 1Mn 1Mc 5Mn 1Mc 1Mn 5Mc 1Mn 2Mc 8Lo 1Cn 2Po 10Nd 7Po 10So 9Mn 9So 3Po 2Mn 1Mc 30Lo 1Mc 4Mn
    2Mc 2Mn 1Mc 3Mn 2Lo 10Nd 44Lo 1Mn 1Mc 2Mn 3Mc 1Mn 1Mc 3Mn 2Mc 8Cn 4Po 36Lo 8Mc 8Mn 2Mc 2Mn 3Cn
    5Po 10Nd 3Cn 3Lo 10Nd 30Lo 6Lm 2Po 9Ll 1Lu 1Ll 5Cn 43Lu 2Cn 3Lu 8Po 8Cn 3Mn 1Po 13Mn 1Mc 7Mn 4Lo
    1Mn 6Lo 1Mn 2Lo 1Mc 2Mn 1Lo 5Cn 44Ll 63Lm 13Ll 1Lm 34Ll 37Lm 64Mn 1Lu 1Ll 1Lu 1Ll 1Lu 1Ll 1Lu
    1Ll 1Lu 1Ll 1Lu 1Ll 1Lu 1Ll 1Lu 1Ll 1Lu 1Ll 1Lu 1Ll 1Lu 1Ll 1Lu 1Ll 1Lu 1Ll 1Lu 1Ll 1Lu 1Ll 1Lu
    1Ll 1Lu 1Ll 1Lu 1Ll 1Lu 1Ll 1Lu 1Ll 1Lu 1Ll 1Lu 1Ll 1Lu 1Ll 1Lu 1Ll 1Lu 1Ll 1Lu 1Ll 1Lu 1Ll 1Lu
    1Ll 1Lu 1Ll 1Lu 1Ll 1Lu 1Ll 1Lu 1Ll 1Lu 1Ll 1Lu 1Ll 1Lu 1Ll 1Lu 1Ll 1Lu 1Ll 1Lu 1Ll 1Lu 1Ll 1Lu
    1Ll 1Lu 1Ll 1Lu 1Ll 1Lu 1Ll 1Lu 1Ll 1Lu 1Ll 1Lu 1Ll 1Lu 1Ll 1Lu 1Ll 1Lu 1Ll 1Lu 1Ll 1Lu 1Ll 1Lu
    1Ll 1Lu 1Ll 1Lu 1Ll 1Lu 1Ll 1Lu 1Ll 1Lu 1Ll 1Lu 1Ll 1Lu 1Ll 1Lu 1Ll 1Lu 1Ll 1Lu 1Ll 1Lu 1Ll 1Lu
    1Ll 1Lu 1Ll 1Lu 1Ll 1Lu 1Ll 1Lu 1Ll 1Lu 1Ll 1Lu 1Ll 1Lu 1Ll 1Lu 1Ll 1Lu 1Ll 1Lu 1Ll 1Lu 9Ll 1Lu
    1Ll 1Lu 1Ll 1Lu 1Ll 1Lu 1Ll 1Lu 1Ll 1Lu 1Ll 1Lu 1Ll 1Lu 1Ll 1Lu 1Ll 1Lu 1Ll 1Lu 1Ll 1Lu 1Ll 1Lu
    1Ll 1Lu 1Ll 1Lu 1Ll 1Lu 1Ll 1Lu 1Ll 1Lu 1Ll 1Lu 1Ll 1Lu 1Ll 1Lu 1Ll 1Lu 1Ll 1Lu 1Ll 1Lu 1Ll 1Lu
    1Ll 1Lu 1Ll 1Lu 1Ll 1Lu 1Ll 1Lu 1Ll 1Lu 1Ll 1Lu 1Ll 1Lu 1Ll 1Lu 1Ll 1Lu 1Ll 1Lu 1Ll 1Lu 1Ll 1Lu
    1Ll 1Lu 1Ll 1Lu 1Ll 1Lu 1Ll 1Lu 1Ll 1Lu 1Ll 1Lu 1Ll 1Lu 1Ll 1Lu 1Ll 1Lu 1Ll 1Lu 1Ll 1Lu 1Ll 1Lu
    9Ll 8Lu 6Ll 2Cn 6Lu 2Cn 8Ll 8Lu 8Ll 8Lu 6Ll 2Cn 6Lu 2Cn 8Ll 1Cn 1Lu 1Cn 1Lu 1Cn 1Lu 1Cn 1Lu 8Ll
    8Lu 14Ll 2Cn 8Ll 8Lt 8Ll 8Lt 8Ll 8Lt 5Ll 1Cn 2Ll 4Lu 1Lt 1Sk 1Ll 3Sk 3Ll 1Cn 2Ll 4Lu 1Lt 3Sk 4Ll
    2Cn 2Ll 4Lu 1Cn 3Sk 8Ll 5Lu 3Sk 2Cn 3Ll 1Cn 2Ll 4Lu 1Lt 2Sk 1Cn 11Zs 5Cf 6Pd 2Po 1Pi 1Pf 1Ps 2Pi
    1Pf 1Ps 1Pi 8Po 1Zl 1Zp 5Cf 1Zs 9Po 1Pi 1Pf 4Po 2Pc 3Po 1Sm 1Ps 1Pe 11Po 1Sm 1Po 1Pc 10Po 1Zs
    5Cf 1Cn 10Cf 1No 1Lm 2Cn 6No 3Sm 1Ps 1Pe 1Lm 10No 3Sm 1Ps 1Pe 1Cn 13Lm 3Cn 33Sc 15Cn 13Mn 4Me
    1Mn 3Me 12Mn 15Cn 2So 1Lu 4So 1Lu 2So 1Ll 3Lu 2Ll 3Lu 1Ll 1So 1Lu 2So 1Sm 5Lu 6So 1Lu 1So 1Lu
    1So 1Lu 1So 4Lu 1So 1Ll 4Lu 1Ll 4Lo 1Ll 2So 2Ll 2Lu 5Sm 1Lu 4Ll 1So 1Sm 2So 1Ll 1So 16No 35Nl
    1Lu 1Ll 4Nl 1No 2So 4Cn 5Sm 5So 2Sm 4So 1Sm 2So 1Sm 2So 1Sm 7So 1Sm 31So 2Sm 2So 1Sm 1So 1Sm
    31So 268Sm 8So 1Ps 1Pe 1Ps 1Pe 20So 2Sm 7So 1Ps 1Pe 81So 1Sm 30So 25Sm 40So 6Sm 72So 22Cn 11So
    21Cn 60No 78So 22No 183So 1Sm 9So 1Sm 54So 8Sm 111So 1Sm 248So 1Ps 1Pe 1Ps 1Pe 1Ps 1Pe 1Ps 1Pe
    1Ps 1Pe 1Ps 1Pe 1Ps 1Pe 30No 44So 5Sm 1Ps 1Pe 31Sm 1Ps 1Pe 1Ps 1Pe 1Ps 1Pe 1Ps 1Pe 1Ps 1Pe 16Sm
    256So 131Sm 1Ps 1Pe 1Ps 1Pe 1Ps 1Pe 1Ps 1Pe 1Ps 1Pe 1Ps 1Pe 1Ps 1Pe 1Ps 1Pe 1Ps 1Pe 1Ps 1Pe 1Ps
    1Pe 63Sm 1Ps 1Pe 1Ps 1Pe 32Sm 1Ps 1Pe 258Sm 48So 21Sm 2So 6Sm 39So 2Cn 32So 1Cn 105So 48Lu 48Ll
    1Lu 1Ll 3Lu 2Ll 1Lu 1Ll 1Lu 1Ll 1Lu 1Ll 4Lu 1Ll 1Lu 2Ll 1Lu 6Ll 2Lm 3Lu 1Ll 1Lu 1Ll 1Lu 1Ll 1Lu
    1Ll 1Lu 1Ll 1Lu 1Ll 1Lu 1Ll 1Lu 1Ll 1Lu 1Ll 1Lu 1Ll 1Lu 1Ll 1Lu 1Ll 1Lu 1Ll 1Lu 1Ll 1Lu 1Ll 1Lu
    1Ll 1Lu 1Ll 1Lu 1Ll 1Lu 1Ll 1Lu 1Ll 1Lu 1Ll 1Lu 1Ll 1Lu 1Ll 1Lu 1Ll 1Lu 1Ll 1Lu 1Ll 1Lu 1Ll 1Lu
    1Ll 1Lu 1Ll 1Lu 1Ll 1Lu 1Ll 1Lu 1Ll 1Lu 1Ll 1Lu 1Ll 1Lu 1Ll 1Lu 1Ll 1Lu 1Ll 1Lu 1Ll 1Lu 1Ll 1Lu
    1Ll 1Lu 1Ll 1Lu 1Ll 1Lu 1Ll 1Lu 1Ll 1Lu 1Ll 1Lu 1Ll 1Lu 1Ll 1Lu 1Ll 1Lu 1Ll 1Lu 2Ll 6So 1Lu 1Ll
    1Lu 1Ll 3Mn 1Lu 1Ll 5Cn 4Po 1No 2Po 38Ll 1Cn 1Ll 5Cn 1Ll 2Cn 56Lo 7Cn 1Lm 1Po 14Cn 1Mn 23Lo 9Cn
    7Lo 1Cn 7Lo 1Cn 7Lo 1Cn 7Lo 1Cn 7Lo 1Cn 7Lo 1Cn 7Lo 1Cn 7Lo 1Cn 32Mn 2Po 1Pi 1Pf 1Pi 1Pf 3Po 1Pi
    1Pf 1Po 1Pi 1Pf 9Po 1Pd 2Po 1Pd 1Po 1Pi 1Pf 2Po 1Pi 1Pf 1Ps 1Pe 1Ps 1Pe 1Ps 1Pe 1Ps 1Pe 5Po 1Lm
    10Po 2Pd 4Po 1Pd 1Po 1Ps 13Po 2So 3Po 1Ps 1Pe 1Ps 1Pe 1Ps 1Pe 1Ps 1Pe 1Pd 34Cn 26So 1Cn 89So
    12Cn 214So 26Cn 16So 1Zs 3Po 1So 1Lm 1Lo 1Nl 1Ps 1Pe 1Ps 1Pe 1Ps 1Pe 1Ps 1Pe 1Ps 1Pe 2So 1Ps 1Pe
    1Ps 1Pe 1Ps 1Pe 1Ps 1Pe 1Pd 1Ps 2Pe 1So 9Nl 4Mn 2Mc 1Pd 5Lm 2So 3Nl 1Lm 1Lo 1Po 2So 1Cn 86Lo 2Cn
    2Mn 2Sk 2Lm 1Lo 1Pd 90Lo 1Po 3Lm 1Lo 5Cn 43Lo 1Cn 94Lo 1Cn 2So 4No 10So 32Lo 38So 9Cn 1So 16Lo
    31So 1Cn 10No 30So 8No 1So 15No 32So 10No 39So 15No 320So 6592Lo 64So 21013Lo 1Lm 1143Lo 3Cn
    55So 9Cn 40Lo 6Lm 2Po 268Lo 1Lm 3Po 16Lo 10Nd 2Lo 20Cn 1Lu 1Ll 1Lu 1Ll 1Lu 1Ll 1Lu 1Ll 1Lu 1Ll
    1Lu 1Ll 1Lu 1Ll 1Lu 1Ll 1Lu 1Ll 1Lu 1Ll 1Lu 1Ll 1Lu 1Ll 1Lu 1Ll 1Lu 1Ll 1Lu 1Ll 1Lu 1Ll 1Lu 1Ll
    1Lu 1Ll 1Lu 1Ll 1Lu 1Ll 1Lu 1Ll 1Lu 1Ll 1Lu 1Ll 1Lo 1Mn 3Me 1Po 10Mn 1Po 1Lm 1Lu 1Ll 1Lu 1Ll 1Lu
    1Ll 1Lu 1Ll 1Lu 1Ll 1Lu 1Ll 1Lu 1Ll 1Lu 1Ll 1Lu 1Ll 1Lu 1Ll 1Lu 1Ll 1Lu 1Ll 1Lu 1Ll 1Lu 1Ll 2Lm
    2Mn 70Lo 10Nl 2Mn 6Po 8Cn 23Sk 9Lm 2Sk 1Lu 1Ll 1Lu 1Ll 1Lu 1Ll 1Lu 1Ll 1Lu 1Ll 1Lu 1Ll 1Lu 3Ll
    1Lu 1Ll 1Lu 1Ll 1Lu 1Ll 1Lu 1Ll 1Lu 1Ll 1Lu 1Ll 1Lu 1Ll 1Lu 1Ll 1Lu 1Ll 1Lu 1Ll 1Lu 1Ll 1Lu 1Ll
    1Lu 1Ll 1Lu 1Ll 1Lu 1Ll 1Lu 1Ll 1Lu 1Ll 1Lu 1Ll 1Lu 1Ll 1Lu 1Ll 1Lu 1Ll 1Lu 1Ll 1Lu 1Ll 1Lu 1Ll
    1Lu 1Ll 1Lu 1Ll 1Lu 1Ll 1Lu 1Ll 1Lu 1Ll 1Lu 1Ll 1Lu 1Ll 1Lm 8Ll 1Lu 1Ll 1Lu 1Ll 2Lu 1Ll 1Lu 1Ll
    1Lu 1Ll 1Lu 1Ll 1Lu 1Ll 1Lm 2Sk 1Lu 1Ll 1Lu 1Ll 1Lo 1Lu 1Ll 1Lu 3Ll 1Lu 1Ll 1Lu 1Ll 1Lu 1Ll 1Lu
    1Ll 1Lu 1Ll 1Lu 1Ll 1Lu 1Ll 1Lu 1Ll 1Lu 1Ll 1Lu 1Ll 5Lu 1Ll 5Lu 1Ll 1Lu 1Ll 1Lu 1Ll 1Lu 1Ll 1Lu
    1Ll 1Lu 1Ll 1Lu 1Ll 1Lu 1Ll 4Lu 1Ll 1Lu 1Ll 2Lu 1Ll 2Cn 1Lu 1Ll 1Cn 1Ll 1Cn 1Ll 1Lu 1Ll 1Lu 1Ll
    1Lu 1Ll 1Lu 21Cn 3Lm 1Lu 1Ll 1Lo 2Lm 1Ll 7Lo 1Mn 3Lo 1Mn 4Lo 1Mn 23Lo 2Mc 2Mn 1Mc 4So 1Mn 3Cn
    6No 2So 1Sc 1So 6Cn 52Lo 4Po 8Cn 2Mc 50Lo 16Mc 2Mn 8Cn 2Po 10Nd 6Cn 18Mn 6Lo 3Po 1Lo 1Po 2Lo 1Mn
    10Nd 28Lo 8Mn 2Po 23Lo 11Mn 2Mc 11Cn 1Po 29Lo 3Cn 3Mn 1Mc 47Lo 1Mn 2Mc 4Mn 2Mc 2Mn 3Mc 13Po 1Cn
    1Lm 10Nd 4Cn 2Po 5Lo 1Mn 1Lm 9Lo 10Nd 5Lo 1Cn 41Lo 6Mn 2Mc 2Mn 2Mc 2Mn 9Cn 3Lo 1Mn 8Lo 1Mn 1Mc
    2Cn 10Nd 2Cn 4Po 16Lo 1Lm 6Lo 3So 1Lo 1Mc 1Mn 1Mc 50Lo 1Mn 1Lo 3Mn 2Lo 2Mn 5Lo 2Mn 1Lo 1Mn 1Lo
    24Cn 2Lo 1Lm 2Po 11Lo 1Mc 2Mn 2Mc 2Po 1Lo 2Lm 1Mc 1Mn 10Cn 6Lo 2Cn 6Lo 2Cn 6Lo 9Cn 7Lo 1Cn 7Lo
    1Cn 43Ll 1Sk 4Lm 9Ll 1Lm 2Sk 4Cn 80Ll 35Lo 2Mc 1Mn 2Mc 1Mn 2Mc 1Po 1Mc 1Mn 2Cn 10Nd 6Cn 11172Lo
    12Cn 23Lo 4Cn 49Lo 4Cn 2048Cs 6400Co 366Lo 2Cn 106Lo 38Cn 7Ll 12Cn 5Ll 5Cn 1Lo 1Mn 10Lo 1Sm 13Lo
    1Cn 5Lo 1Cn 1Lo 1Cn 2Lo 1Cn 2Lo 1Cn 108Lo 17Sk 16Cn 363Lo 1Pe 1Ps 16So 64Lo 2Cn 54Lo 7Cn 1So
    32Cn 12Lo 1Sc 3So 16Mn 7Po 1Ps 1Pe 1Po 6Cn 16Mn 1Po 2Pd 2Pc 1Ps 1Pe 1Ps 1Pe 1Ps 1Pe 1Ps 1Pe 1Ps
    1Pe 1Ps 1Pe 1Ps 1Pe 1Ps 1Pe 2Po 1Ps 1Pe 4Po 3Pc 3Po 1Cn 4Po 1Pd 1Ps 1Pe 1Ps 1Pe 1Ps 1Pe 3Po 1Sm
    1Pd 3Sm 1Cn 1Po 1Sc 2Po 4Cn 5Lo 1Cn 135Lo 2Cn 1Cf 1Cn 3Po 1Sc 3Po 1Ps 1Pe 1Po 1Sm 1Po 1Pd 2Po
    10Nd 2Po 3Sm 2Po 26Lu 1Ps 1Po 1Pe 1Sk 1Pc 1Sk 26Ll 1Ps 1Sm 1Pe 1Sm 1Ps 1Pe 1Po 1Ps 1Pe 2Po 10Lo
    1Lm 45Lo 2Lm 31Lo 3Cn 6Lo 2Cn 6Lo 2Cn 6Lo 2Cn 3Lo 3Cn 2Sc 1Sm 1Sk 1So 2Sc 1Cn 1So 4Sm 2So 10Cn
    3Cf 2So 2Cn 12Lo 1Cn 26Lo 1Cn 19Lo 1Cn 2Lo 1Cn 15Lo 2Cn 14Lo 34Cn 123Lo 5Cn 3Po 4Cn 45No 3Cn 9So
    53Nl 4No 17So 2No 3So 1Cn 13So 3Cn 1So 47Cn 45So 1Mn 130Cn 29Lo 3Cn 49Lo 15Cn 1Mn 27No 4Cn 32Lo
    4No 9Cn 20Lo 1Nl 8Lo 1Nl 5Cn 38Lo 5Mn 5Cn 30Lo 1Cn 1Po 36Lo 4Cn 8Lo 1Po 5Nl 42Cn 40Lu 40Ll 78Lo
    2Cn 10Nd 6Cn 36Lu 4Cn 36Ll 4Cn 40Lo 8Cn 52Lo 11Cn 1Po 11Lu 1Cn 15Lu 1Cn 7Lu 1Cn 2Lu 1Cn 11Ll 1Cn
    15Ll 1Cn 7Ll 1Cn 2Ll 3Cn 52Lo 12Cn 311Lo 9Cn 22Lo 10Cn 8Lo 24Cn 6Lm 1Cn 42Lm 1Cn 9Lm 69Cn 6Lo
    2Cn 1Lo 1Cn 44Lo 1Cn 2Lo 3Cn 1Lo 2Cn 23Lo 1Cn 1Po 8No 23Lo 2So 7No 31Lo 8Cn 9No 48Cn 19Lo 1Cn
    2Lo 5Cn 5No 22Lo 6No 3Cn 1Po 26Lo 5Cn 1Po 64Cn 56Lo 4Cn 2No 2Lo 16No 2Cn 46No 1Lo 3Mn 1Cn 2Mn
    5Cn 4Mn 4Lo 1Cn 3Lo 1Cn 29Lo 2Cn 3Mn 4Cn 1Mn 9No 7Cn 9Po 7Cn 29Lo 2No 1Po 29Lo 3No 32Cn 8Lo 1So
    28Lo 2Mn 4Cn 5No 7Po 9Cn 54Lo 3Cn 7Po 22Lo 2Cn 8No 19Lo 5Cn 8No 18Lo 7Cn 4Po 12Cn 7No 80Cn 73Lo
    55Cn 51Lu 13Cn 51Ll 7Cn 6No 36Lo 4Mn 8Cn 10Nd 6Cn 10Nd 4Lo 1Lm 1Lo 22Lu 3Cn 5Mn 1Pd 1Lm 22Ll 8Cn
    2Sm 208Cn 31No 1Cn 42Lo 1Cn 2Mn 1Pd 2Cn 2Lo 16Cn 3Lo 55Cn 4Mn 29Lo 10No 1Lo 8Cn 22Lo 11Mn 4No
    5Po 22Cn 18Lo 4Mn 4Po 38Cn 21Lo 7No 20Cn 23Lo 9Cn 1Mc 1Mn 1Mc 53Lo 15Mn 7Po 4Cn 20No 10Nd 1Mn
    2Lo 2Mn 1Lo 9Cn 3Mn 1Mc 45Lo 3Mc 4Mn 2Mc 2Mn 2Po 1Cf 4Po 1Mn 10Cn 1Cf 2Cn 25Lo 7Cn 10Nd 6Cn 3Mn
    36Lo 5Mn 1Mc 8Mn 1Cn 10Nd 4Po 1Lo 2Mc 1Lo 8Cn 35Lo 1Mn 2Po 1Lo 9Cn 2Mn 1Mc 48Lo 3Mc 9Mn 2Mc 4Lo
    4Po 4Mn 1Po 1Mc 1Mn 10Nd 1Lo 1Po 1Lo 3Po 1Cn 20No 11Cn 18Lo 1Cn 25Lo 3Mc 3Mn 2Mc 1Mn 1Mc 2Mn 6Po
    1Mn 2Lo 1Mn 62Cn 7Lo 1Cn 1Lo 1Cn 4Lo 1Cn 15Lo 1Cn 10Lo 1Po 6Cn 47Lo 1Mn 3Mc 8Mn 5Cn 10Nd 6Cn 2Mn
    2Mc 1Cn 8Lo 2Cn 2Lo 2Cn 22Lo 1Cn 7Lo 1Cn 2Lo 1Cn 5Lo 1Cn 2Mn 1Lo 2Mc 1Mn 4Mc 2Cn 2Mc 2Cn 3Mc 2Cn
    1Lo 6Cn 1Mc 5Cn 5Lo 2Mc 2Cn 7Mn 3Cn 5Mn 11Cn 10Lo 1Cn 1Lo 2Cn 1Lo 1Cn 38Lo 1Cn 1Lo 3Mc 6Mn 1Cn
    1Mc 2Cn 1Mc 1Cn 4Mc 1Cn 2Mc 1Mn 1Mc 1Mn 1Lo 1Mn 1Lo 2Po 1Cn 2Po 8Cn 2Mn 29Cn 53Lo 3Mc 8Mn 2Mc
    3Mn 1Mc 1Mn 4Lo 5Po 10Nd 2Po 1Cn 1Po 1Mn 3Lo 30Cn 48Lo 3Mc 6Mn 1Mc 1Mn 4Mc 2Mn 1Mc 2Mn 2Lo 1Po
    1Lo 8Cn 10Nd 166Cn 47Lo 3Mc 4Mn 2Cn 4Mc 2Mn 1Mc 2Mn 23Po 4Lo 2Mn 34Cn 48Lo 3Mc 8Mn 2Mc 1Mn 1Mc
    2Mn 3Po 1Lo 11Cn 10Nd 6Cn 13Po 19Cn 43Lo 1Mn 1Mc 1Mn 2Mc 6Mn 1Mc 1Mn 1Lo 1Po 6Cn 10Nd 6Cn 20Nd
    28Cn 27Lo 2Cn 1Mn 1Mc 1Mn 2Mc 4Mn 1Mc 5Mn 4Cn 10Nd 2No 3Po 1So 7Lo 185Cn 44Lo 3Mc 9Mn 1Mc 2Mn
    1Po 100Cn 32Lu 32Ll 10Nd 9No 12Cn 8Lo 2Cn 1Lo 2Cn 8Lo 1Cn 2Lo 1Cn 24Lo 6Mc 1Cn 2Mc 2Cn 2Mn 1Mc
    1Mn 1Lo 1Mc 1Lo 1Mc 1Mn 3Po 9Cn 10Nd 70Cn 8Lo 2Cn 39Lo 3Mc 4Mn 2Cn 2Mn 4Mc 1Mn 1Lo 1Po 1Lo 1Mc
    27Cn 1Lo 10Mn 40Lo 6Mn 1Mc 1Lo 4Mn 8Po 1Mn 8Cn 1Lo 6Mn 2Mc 3Mn 46Lo 13Mn 1Mc 2Mn 3Po 1Lo 5Po
    13Cn 73Lo 7Cn 10Po 182Cn 33Lo 1Po 14Cn 10Nd 6Cn 9Lo 1Cn 37Lo 1Mc 7Mn 1Cn 6Mn 1Mc 1Mn 1Lo 5Po
    10Cn 10Nd 19No 3Cn 2Po 30Lo 2Cn 22Mn 1Cn 1Mc 7Mn 1Mc 2Mn 1Mc 2Mn 73Cn 7Lo 1Cn 2Lo 1Cn 38Lo 6Mn
    3Cn 1Mn 1Cn 2Mn 1Cn 7Mn 1Lo 1Mn 8Cn 10Nd 6Cn 6Lo 1Cn 2Lo 1Cn 32Lo 5Mc 1Cn 2Mn 1Cn 2Mc 1Mn 1Mc
    1Mn 1Lo 7Cn 10Nd 310Cn 19Lo 2Mn 2Mc 2Po 7Cn 2Mn 1Lo 1Mc 13Lo 1Cn 34Lo 2Mc 5Mn 3Cn 2Mc 1Mn 1Mc
    1Mn 13Po 10Nd 1Mn 85Cn 1Lo 15Cn 21No 8So 4Sc 17So 13Cn 1Po 922Lo 102Cn 111Nl 1Cn 5Po 11Cn 196Lo
    2636Cn 97Lo 2Po 13Cn 1072Lo 16Cf 1Mn 6Lo 15Mn 10Cn 3995Lo 5Cn 583Lo 6841Cn 30Lo 12Mn 3Mc 3Mn
    10Nd 1734Cn 569Lo 7Cn 31Lo 1Cn 10Nd 4Cn 2Po 79Lo 1Cn 10Nd 6Cn 30Lo 2Cn 5Mn 1Po 10Cn 48Lo 7Mn 5Po
    4So 4Lm 1Po 1So 10Cn 10Nd 1Cn 7No 1Cn 21Lo 5Cn 19Lo 432Cn 3Lm 40Lo 2Lm 3Po 10Nd 198Cn 32Lu 32Ll
    23No 4Po 101Cn 75Lo 4Cn 1Mn 1Lo 55Mc 7Cn 4Mn 13Lm 64Cn 2Lm 1Po 1Lm 1Mn 11Cn 2Mc 14Cn 6136Lo 8Cn
    1238Lo 41Cn 10Lo 8935Cn 4Lm 1Cn 7Lm 1Cn 2Lm 1Cn 291Lo 15Cn 1Lo 29Cn 3Lo 2Cn 1Lo 14Cn 4Lo 8Cn
    396Lo 2308Cn 107Lo 5Cn 13Lo 3Cn 9Lo 7Cn 10Lo 2Cn 1So 2Mn 1Po 4Cf 3932Cn 240So 10Nd 6Cn 436So
    76Cn 46Mn 2Cn 23Mn 9Cn 116So 60Cn 246So 10Cn 39So 2Cn 60So 2Mc 3Mn 3So 6Mc 8Cf 8Mn 2So 7Mn 30So
    4Mn 61So 21Cn 66So 3Mn 1So 122Cn 20No 12Cn 20No 12Cn 87So 9Cn 25No 135Cn 26Lu 26Ll 26Lu 7Ll 1Cn
    18Ll 26Lu 26Ll 1Lu 1Cn 2Lu 2Cn 1Lu 2Cn 2Lu 2Cn 4Lu 1Cn 8Lu 4Ll 1Cn 1Ll 1Cn 7Ll 1Cn 11Ll 26Lu
    26Ll 2Lu 1Cn 4Lu 2Cn 8Lu 1Cn 7Lu 1Cn 26Ll 2Lu 1Cn 4Lu 1Cn 5Lu 1Cn 1Lu 3Cn 7Lu 1Cn 26Ll 26Lu 26Ll
    26Lu 26Ll 26Lu 26Ll 26Lu 26Ll 26Lu 26Ll 26Lu 28Ll 2Cn 25Lu 1Sm 25Ll 1Sm 6Ll 25Lu 1Sm 25Ll 1Sm
    6Ll 25Lu 1Sm 25Ll 1Sm 6Ll 25Lu 1Sm 25Ll 1Sm 6Ll 25Lu 1Sm 25Ll 1Sm 6Ll 1Lu 1Ll 2Cn 50Nd 512So
    55Mn 4So 50Mn 8So 1Mn 14So 1Mn 2So 5Po 15Cn 5Mn 1Cn 15Mn 1104Cn 10Ll 1Lo 20Ll 6Cn 6Ll 213Cn 7Mn
    1Cn 17Mn 2Cn 7Mn 1Cn 2Mn 1Cn 5Mn 5Cn 62Lm 33Cn 1Mn 112Cn 45Lo 3Cn 7Mn 7Lm 2Cn 10Nd 4Cn 1Lo 1So
    320Cn 30Lo 1Mn 17Cn 44Lo 4Mn 10Nd 5Cn 1Sc 464Cn 27Lo 1Lm 4Mn 10Nd 214Cn 30Lo 2Mn 1Lo 10Nd 4Cn
    1Po 480Cn 7Lo 1Cn 4Lo 1Cn 2Lo 1Cn 15Lo 1Cn 197Lo 2Cn 9No 7Mn 41Cn 34Lu 34Ll 7Mn 1Lm 4Cn 10Nd 4Cn
    2Po 785Cn 59No 1So 3No 1Sc 4No 76Cn 45No 1So 15No 194Cn 4Lo 1Cn 27Lo 1Cn 2Lo 1Cn 1Lo 2Cn 1Lo 1Cn
    10Lo 1Cn 4Lo 1Cn 1Lo 1Cn 1Lo 6Cn 1Lo 4Cn 1Lo 1Cn 1Lo 1Cn 1Lo 1Cn 3Lo 1Cn 2Lo 1Cn 1Lo 2Cn 1Lo 1Cn
    1Lo 1Cn 1Lo 1Cn 1Lo 1Cn 1Lo 1Cn 2Lo 1Cn 1Lo 2Cn 4Lo 1Cn 7Lo 1Cn 4Lo 1Cn 4Lo 1Cn 1Lo 1Cn 10Lo 1Cn
    17Lo 5Cn 3Lo 1Cn 5Lo 1Cn 17Lo 52Cn 2Sm 270Cn 44So 4Cn 100So 12Cn 15So 2Cn 15So 1Cn 15So 1Cn 37So
    10Cn 13No 161So 56Cn 29So 13Cn 44So 4Cn 9So 7Cn 2So 14Cn 6So 154Cn 251So 5Sk 728So 4Cn 17So 3Cn
    13So 3Cn 119So 4Cn 95So 6Cn 12So 4Cn 1So 15Cn 12So 4Cn 56So 8Cn 10So 6Cn 40So 8Cn 30So 2Cn 12So
    4Cn 2So 62Cn 340So 12Cn 14So 2Cn 13So 3Cn 10So 5Cn 56So 7Cn 15So 2Cn 11So 6Cn 9So 7Cn 147So 1Cn
    92So 10Nd 1030Cn 42720Lo 32Cn 4154Lo 6Cn 222Lo 2Cn 5762Lo 14Cn 7473Lo 15Cn 622Lo 2466Cn 542Lo
    1506Cn 4939Lo 5Cn 4192Lo 711761Cn 1Cf 30Cn 96Cf 128Cn 240Mn 65040Cn 65534Co 2Cn 65534Co 2Cn"

/-- The names of each category and of each group of categories, and the codes that belong to it.
Surrogates are no characters, so their category has no name. -/
def categoryNames : List (List String × List String) :=
  [(["c", "other"], ["Cc", "Cf", "Cn", "Co", "Cs"]),
   (["cc", "control", "cntrl"], ["Cc"]),
   (["cf", "format"], ["Cf"]),
   (["cn", "unassigned"], ["Cn"]),
   (["co", "privateuse"], ["Co"]),
   (["l", "letter"], ["Ll", "Lm", "Lo", "Lt", "Lu"]),
   (["lc", "casedletter"], ["Ll", "Lt", "Lu"]),
   (["ll", "lowercaseletter"], ["Ll"]),
   (["lm", "modifierletter"], ["Lm"]),
   (["lo", "otherletter"], ["Lo"]),
   (["lt", "titlecaseletter"], ["Lt"]),
   (["lu", "uppercaseletter"], ["Lu"]),
   (["m", "mark", "combiningmark"], ["Mc", "Me", "Mn"]),
   (["mc", "spacingmark"], ["Mc"]),
   (["me", "enclosingmark"], ["Me"]),
   (["mn", "nonspacingmark"], ["Mn"]),
   (["n", "number"], ["Nd", "Nl", "No"]),
   (["nd", "decimalnumber", "digit"], ["Nd"]),
   (["nl", "letternumber"], ["Nl"]),
   (["no", "othernumber"], ["No"]),
   (["p", "punctuation", "punct"], ["Pc", "Pd", "Pe", "Pf", "Pi", "Po", "Ps"]),
   (["pc", "connectorpunctuation"], ["Pc"]),
   (["pd", "dashpunctuation"], ["Pd"]),
   (["pe", "closepunctuation"], ["Pe"]),
   (["pf", "finalpunctuation"], ["Pf"]),
   (["pi", "initialpunctuation"], ["Pi"]),
   (["po", "otherpunctuation"], ["Po"]),
   (["ps", "openpunctuation"], ["Ps"]),
   (["s", "symbol"], ["Sc", "Sk", "Sm", "So"]),
   (["sc", "currencysymbol"], ["Sc"]),
   (["sk", "modifiersymbol"], ["Sk"]),
   (["sm", "mathsymbol"], ["Sm"]),
   (["so", "othersymbol"], ["So"]),
   (["z", "separator"], ["Zl", "Zp", "Zs"]),
   (["zl", "lineseparator"], ["Zl"]),
   (["zp", "paragraphseparator"], ["Zp"]),
   (["zs", "spaceseparator"], ["Zs"])]

def categoryRuns : List Run := readRuns categoryText

def ofCategories (codes : List String) : CharSet :=
  select codes.contains categoryRuns

/-- The characters of a category, and three sets that are named like categories. -/
def category? (name : String) : Option CharSet :=
  match name with
  | "any" => some .everything
  | "ascii" => some (.range '\x00' '\x7f')
  | "assigned" => some (ofCategories ["Cn"]).negate
  | _ => (named? name categoryNames).map ofCategories

end TemporalMonitor.Unicode
