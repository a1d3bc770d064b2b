/-! Names of the characters of Unicode 14 from `U+3000` to `U+FFFF`, as `TextName` reads them. -/
namespace FlowSketch.TextNameSyllables

/-- Entries for consecutive characters, from the given one on. -/
def blocks : List (Nat × List String) := [
  (0x3000, ["aIDEOGRAPHIC SPACEmCOMMAmFULL STOPaDITTO MARKaJAPANESE INDUSTRIAL STANDARD SYMBOL",
    "aIDEOGRAPHIC ITERATION MARKm&CLOSINGmNUMBER ZEROaLEFT ANGLE BRACKETa=RIGHa<LEFT DOUBLEa|RIGHa*LEFT CORNERa>RIGH",
    "a=LEFT WHITEa|RIGHa+LEFT BLACK LENTICULAa|%RIGHaPOSTAL MARKa&GETAaLEFT TORTOISE SHELL BRACKETa|#RIGH",
    "a*LEFT WHITE LENTICULARa|%RIGHa*LEFT WHITE TORTOISE SHELLa|*RIGHa*LEFT WHITE SQUAREa|RIGHaWAVE DASH",
    "aREVERSED DOUBLE PRIME QUOTATION MARKa|&a|&LOW aPOSTAL MARK FACEaHANGZHOU NUMERAL ONErTWOsHREErFOURsIVErSIXsEVEN",
    "rEIGHTrNINEaIDEOGRAPHIC LEVEL TONE MARKm,RISINGm;DEPARTm;ENTERa,HANGUL SINGLE DOTh>DOUBaWAVY DASH",
    "aVERTICAL KANA REPEAT MARKu& WITH VOICED SOUNDvMARK UPPER HALFu> WITH VOICED SOUNDv)MARK LOWaCIRCLED POSTAL MARK",
    "aIDEOGRAPHIC TELEGRAPH LINE FEED SEPARATOR SYMBOLaHANGZHOU NUMERAL TENsWENTYs#HIR",
    "aVERTICAL IDEOGRAPHIC ITERATION MARKa&MASUa&PART ALTERNATIONaIDEOGRAPHIC VARIATION INDICATORmHALF FILL SPACE_",
    "aHIRAGANA LETTER SMALL Ap#qSMALL Ip#qSMALL Up#qSMALL Ep#qSMALL Op#qKAqGAqKIqGIqKUqGUqKEqGEqKOqGOqSAqZAqSIqZIqSU",
    "qZUqSEqZEqSOqZOqTAqDAqTIqDIqSMALL TUp$qDUqTEqDEqTOqDOqNArIrUrErOqHAqBAqPAqHIqBIqPIqHUqBUqPUqHEqBEqPEqHOqBOqPOqMA",
    "rIrUrErOqSMALL YAp$qSMALL YUp$qSMALL YOp$qRArIrUrErOqSMALL WAp$rIrErOqNqVUqSMALL KAxE__",
    "aCOMBINING KATAKANA-HIRAGANA VOICED SOUND MARKzd?SEMI-a?KATAKANA-HIRAGANA s?SEMI-a&HIRAGANA ITERATIONi= VOICED",
    "jDIGRAPH YORIaKATAKANA-HIRAGANA DOUBLE HYPHENi LETTER SMALL Ap#qSMALL Ip#qSMALL Up#qSMALL Ep#qSMALL Op#qKAqGAqKI",
    "qGIqKUqGUqKEqGEqKOqGOqSAqZAqSIqZIqSUqZUqSEqZEqSOqZOqTAqDAqTIqDIqSMALL TUp$qDUqTEqDEqTOqDOqNArIrUrErOqHAqBAqPAqHI",
    "qBIqPIqHUqBUqPUqHEqBEqPEqHOqBOqPOqMArIrUrErOqSMALL YAp$qSMALL YUp$qSMALL YOp$qRArIrUrErOqSMALL WAp$rIrErOqNqVU",
    "qSMALL KAxEqVArIrErOjMIDDLE DOTi-HIRAGANA PROLONGED SOUND MARKi& ITERATIONi= VOICEDjDIGRAPH KOTO_____",
    "aBOPOMOFO LETTER BqPqMqFqDqTqNqLqGqKqHqJqQqXqZHqCHqSHqRqZqCqSqAqOqErHqAIqEIqAUqOUqANqENqANGq#ErRqIqUqIUqVqNGqGN",
    "qIHqO WITH DOT ABOVEqNN_aHANGUL LETTER KIYEOKo(SSANGoKIYEOK-SIOSoNIEUNt-CIEUCuHIEUHoTIKEUTo(SSANGoRIEULt-KIYEOK",
    "uMIEUMuPIEUPuSIOSuTHIEUTHuPHIEUPHuHIEUHoMIEUMoPIEUPo&SSANGoPIEUP-SIOSo%o%SSANGoIEUNGoCIEUCo&SSANGoCHIEUCH",
    "oKHIEUKHoTHIEUTHoPHIEUPHoHIEUHoApEoYAqEoEOoEoYEOpEoOoWAqEoOEoYOoUoWEOpEpIoYUoEUoYIoIhFILLERhLETTER SSANGNIEUN",
    "oNIEUN-TIKEUTuSIOSu%PANo%RIEUL-KIYEOK-uTIKEUTuPIEUP-SIOSv%ANuYEORINHIEUHoMIEUM-PIEUPuSIOSu%PANoKAPYEOUNMIEUM",
    "oPIEUP-KIYEOKuTIKEUTuSIOS-KIYEOKzTIKEUTuCIEUCuTHIEUTHoKAPYEOUNPIEUPw&SSANGoSIOS-KIYEOKtNIEUNtTIKEUTtPIEUPtCIEUC",
    "oPANSIOSoSSANGIEUNGo&YESw-SIOSx%PANoKAPYEOUNPHIEUPHoSSANGHIEUHo&YEORINpO-YAtErIpU-YEOsErIoARAEAtE_",
    "aIDEOGRAPHIC ANNOTATION LINKING MARKx&REVERSEx(ONx&TWOy&HREEx&FOURx&TOPx&MIDDLEx&BOTTOMx&FIRSTx&SECONDx(THIR",
    "x&FOURTHx&HEAVENx&EARTHx&MANaBOPOMOFO LETTER BUqZIqJIqGUqEErNNqOOrNNqIRqANNq#Iq#UqIMqNGGqAINNr#UrMqOMrNGqINNN",
    "jFINAL LETTER PwTwKwHjLETTER GHqLHqZYjFINAL LETTER GjLETTER GWqKWqOEqAHaCJK STROKE TlWGlXGl#BlSWlHZZnGmPmZWGl$S",
    "lHZTnZPmPWGmZWnZZlNlHlSlPlSPlDlHZmGlSZmWZmTmGlPDmZlTNlSZZmWGl#HXmZZZGlPGlQ"]),
  (0x31F0, ["aKATAKANA LETTER SMALL KUwSIxUwTOwNUwHAxIxUxExOwMUwRAxIxUxExOaPARENTHESIZED HANGUL KIYEOKvNIEUNvTIKEUT",
    "vRIEULvMIEUMvPIEUPvSIOSvIEUNGvCIEUCwHIEUCHvKHIEUKHvTHIEUTHvPHIEUPHvHIEUHvKIYEOK Av#NIEUNv#TIKEUTv#RIEULv#MIEUM",
    "v#PIEUPv#SIOSv#IEUNGv#CIEUCw#HIEUCHv$KHIEUKv$THIEUTv$PHIEUPv$HIEUvCIEUC UoKOREAN CHARACTER OJEONzh HU_",
    "oIDEOGRAPH ONEyTWOzHREEyFOURzIVEySIXzEVENyEIGHTyNINEyTENyMOONyFIREyWATERzOODyMETALyEARTHySUNzTOCKyHAVEySOCIETY",
    "yNAMEySPECIALy%FINANyCONGRATULATIONyLABORyREPRESENTyCALLySTUDYzUPERVISEy$ENTERPRyRESOURCEy#ALLIANyFESTIVALyREST",
    "ySELFyREACHaCIRCLED IDEOGRAPH QUESTIONsKINDERGARTENsSCHOOLsKOTOiNUMBER TEN ON BLACK SQUAREq>WENTYq@HIRp[FOq@IF",
    "p@SIXq@EVENp@EIGHaPARTNERSHIP SIGNaCIRCLED NUMBER TWENTY ONEwTWOxHREEwFOURxIVEwSIXxEVENwEIGHTwNINEqHIRTYv ONE",
    "wTWOxHREEwFOURxIVEiHANGUL KIYEOKpNIEUNpTIKEUTpRIEULpMIEUMpPIEUPpSIOSpIEUNGpCIEUCqHIEUCHpKHIEUKHpTHIEUTHpPHIEUPH",
    "pHIEUHpKIYEOK Ap#NIEUNp#TIKEUTp#RIEULp#MIEUMp#PIEUPp#SIOSp#IEUNGp#CIEUCq#HIEUCHp$KHIEUKp$THIEUTp$PHIEUPp$HIEU",
    "iKOREAN CHARACTER CHAMKOzJUEUIiHANGUL IEUNG UaKOREAN STANDARD SYMBOLaCIRCLED IDEOGRAPH ONEsTWOtHREEsFOURtIVEsSIX",
    "tEVENsEIGHTsNINEsTENsMOONsFIREsWATERtOODsMETALsEARTHsSUNtTOCKsHAVEsSOCIETYsNAMEsSPECIALs%FINANsCONGRATULATION",
    "sLABORsSECRETsMALEs%FEs#SUITABsEXCELLENTs#PRIsATTENTIONsITEMsRESTsCOPYuRRECTsHIGHsCENTREsLOWtEFTsRIGHTsMEDICINE",
    "sRELIGIONsSTUDYtUPERVISEs$ENTERPRsRESOURCEs#ALLIANsNIGHTiNUMBER THIRTY SIXxEVENwEIGHTwNINEpFORTYu ONEvTWOwHREE",
    "vFOURwIVEvSIXwEVENvEIGHTvNINEqIFTYaIDEOGRAPHIC TELEGRAPH SYMBOL FOR JANUARYzi%FEBRziMARCHziAPRILziMAYziJUNEzkLY",
    "ziAUGUSTziSEPTEMBERzi$OCTOzi$NOVEMzi&DECaSQUARE HGhERGiVaLIMITED LIABILITY SIGNaCIRCLED KATAKANA ArIrUrErOrKAsI",
    "sUsEsOrSAsIsUsEsOrTAsIsUsEsOrNAsIsUsEsOrHAsIsUsEsOrMAsIsUsEsOrYAsUsOrRAsIsUsEsOrWAsIsEsOaSQUARE ERA NAME REIWA",
    "hAPAATOiRUHUAiNPEAiARUhININGUjTIhUONhESUKUUDOiEKAAhONSUiOMUhKAIRIjRATTOkORIIhGARONjNMAiIGAjNIIh#KYURhGIRUDAA",
    "hKIROlGURAMUlMEETORUlWATTOhGURAMUnTONhKURUZEIROkOONEiEESUiORUNAjOPOhSAIKURUjNTIIMUiIRINGUiENTIlOhDAASUiESIiORU",
    "hTONhNANOiOTTOhHAITUhPAASENTOkTUhBAARERUh#PIASUTOj#KUkOhBIRUhHUARADDOjIITOhBUSSYERUhHURANiEKUTAARUhPESOjNIHI",
    "hHERUTUhPENSUjEZIhBEETAhPOINTOh#BORUhHONhPONDOhHOORUkNhMAIKUROkRUjHHAjRUKUjNSYONi#IKURjRIlBAARUiEGAlTONjETORU",
    "hYAADOkRUiUANhRITTORUjRAiUPIIjUBURUiEMUjNTOGENhWATTOaIDEOGRAPHIC TELEGRAPH SYMBOL FOR HOUR ZEROznONEznTWOzoHREE",
    "znFOURzoIVEznSIXzoEVENznEIGHTznNINEznTENzn#ELEVznTWELVEzoHIRTEENzn&FOUzo%IFzn%SIXzo%EVENzn%EIGHzn%NINEznTWENTY",
    "zt-ONEzuTWOzvHREEzuFOURaSQUARE HPAhDAhAUhBARhOVhPChDMj SQUAREDk#CUBhIUhERA NAME HEISEIqSYOUWAqTAISYOUqMEIZI",
    "hCORPORATIONhPA AMPShNAhMU AiAhKA~hMBhGBhCALh$KhPFhNFhMU F~iGhKGhHZh#Kh#Mh#Gh#ThMU LiLhDLhKLhFMhNMhMU MiMhCMhKM",
    "hMM SQUAREDh+Ch+h+Kh#MM CUBh)Ch)h)KhM OVER Sp SQUAREDhPAh#Kh#Mh#GhRADk OVER Sr SQUAREDhPShNShMU SiShPVhNVhMU ViV",
    "hKVhMV MEGAhPWhNWhMU WiWhKWhMW MEGAhK OHMh%MhAMhBQhCC~i OVER KGiOhDBhGYhHAiPhINhKKiM CAPITALiThLM~iOGiXhMB SMALL",
    "iILiOLhPHiMh#PiRhSRiVhWBhV OVER Mh)AaIDEOGRAPHIC TELEGRAPH SYMBOL FOR DAY ONEzmTWOznHREEzmFOURznIVEzmSIXznEVEN",
    "zmEIGHTzmNINEzmTENzm#ELEVzmTWELVEznHIRTEENzm&FOUzn%IFzm%SIXzn%EVENzm%EIGHzm%NINEzmTWENTYzs-ONEztTWOzuHREEztFOUR",
    "zuIVEztSIXzuEVENztEIGHTztNINEznHIRTYzs-ONEaSQUARE GAL"]),
  (0x4DC0, ["aHEXAGRAM FOR THE CREATIVE HEAVENrRECEPTIVE EARTHnDIFFICULTY AT THE BEGINNINGnYOUTHFUL FOLLYnWAITING",
    "nCONFLICTnTHE ARMYnHOLDING TOGETHERnSMALL TAMINGn$TREADnPEACEnSTANDSTILLnFELLOWSHIPnGREAT POSSESSIONnMODESTY",
    "nENTHUSIASMnFOLLOWINGnWORK ON THE DECAYEDnAPPROACHnCONTEMPLATIONnBITING THROUGHnGRACEnSPLITTING APARTnRETURN",
    "nINNOCENCEnGREAT TAMINGnMOUTH CORNERSnGREAT PREPONDERANCEnTHE ABYSMAL WATERrCLINGING FIREnINFLUENCEnDURATION",
    "nRETREATnGREAT POWERnPROGRESSnDARKENING OF THE LIGHTnTHE FAMILYnOPPOSITIONo%BSTRUCnDELIVERANCEpCREASEn(IN",
    "nBREAKTHROUGHnCOMING TO MEETnGATHERING TOGETHERnPUSHING UPWARDnOPPRESSIONnTHE WELLnREVOLUTIONn#THE CAULDR",
    "rAROUSING THUNDERrKEEPING STILL MOUNTAINnDEVELOPMENTnTHE MARRYING MAIDENnABUNDANCEnTHE WANDERERrGENTLE WIND",
    "rJOYOUS LAKEnDISPERSIONn$LIMITATnINNER TRUTHnSMALL PREPONDERANCEnAFTER COMPLETIONn.BEFORE"]),
  (0xA000, ["aYI SYLLABLE ITnXmInPnEToXnEoPmATnXmAnPmUOXnOoPmOTnXmOnPmEXmEmWUmBIToXnIoPoETpXoEpPnAToXnAoPnUOXoOpPnOT",
    "oXnOoPnEXnEoPnUToXnUoPoRXoRnYToXnYoPoRXoRmPIToXnIoPoEXoEpPnAToXnAoPnUOXoOpPnOToXnOoPnUToXnUoPoRXoRnYToXnYoPoRXoR",
    "mBBITpXoIpPpETqXpEqPoATpXoApPoUOXpOqPoOTpXoOpPoEXoEpPoUTpXoUpPpRXpRoYTpXoYpPmNBITpXoIpPpEXpEqPoATpXoApPoOTpXoOpP",
    "oUTpXoUpPpRXpRoYTpXoYpPpRXpRmHMITpXoIpPpEXpEqPoATpXoApPoUOXpOqPoOTpXoOpPoUTpXoUpPpRXpRoYXoYpPpRXpRmMIToXnIoPoEX",
    "oEpPnAToXnAoPnUOTpXoOpPnOToXnOoPnEXnEnUToXnUoPoRXoRnYToXnYoPmFIToXnIoPnAToXnAoPnOXnOoPnUToXnUoPoRXoRnYToXnYoP",
    "mVIToXnIoPoETpXoEpPnAToXnAoPnOToXnOoPnEXoPnUToXnUoPoRXoRnYToXnYoPoRXoRmDIToXnIoPoEXoEpPnAToXnAoPnUOXoOnOToXnOoP",
    "nEXnEoPnUToXnUoPoRXoRmTIToXnIoPoEXoEpPnAToXnAoPnUOTpXoOpPnOToXnOoPnEXnEoPnUToXnUoPoRXoRmDDITpXoIpPpEXpEqPoATpXoA",
    "pPoUOXpOqPoOTpXoOpPoEXoEpPoUTpXoUpPpRXpRmNDITpXoIpPpEXpEoATpXoApPoOTpXoOpPoEXoEpPoUTpXoUpPpRXpRmHNITpXoIpPpETqX",
    "pEqPoATpXoApPoUOXpOoOTpXpPoEXoEpPoUTmNIToXnIoPoEXoEpPnAXnAoPnUOXoOpPnOToXnOoPnEXnEoPnUToXnUoPoRXoRmHLITpXoIpPpEX",
    "pEqPoATpXoApPoUOXpOqPoOXoOpPoEXoEpPoUTpXoUpPpRXpRoYTpXoYpPpRXpRmLIToXnIoPoETpXoEpPnAToXnAoPnUOTpXoOpPnOToXnOoP",
    "nEXnEoPnUToXnUoPoRXoRnYToXnYoPoRXoRmGIToXnIoPoETpXoEpPnAToXnAoPnUOTpXoOpPnOToXnOoPnEToXnEoPnUToXnUoPoRXoRmKIToX",
    "nIoPoEXoEpPnAToXnAoPnUOXoOpPnOToXnOoPnEToXnEoPnUToXnUoPoRXoRmGGITpXoIpEXpEqPoATpXoApPoUOTqXpOqPoOTpXoOpPoETpXoE",
    "pPoUTpXoUpPpRXpRmMGIEXpEoATpXoApPoUOXpOqPoOTpXoOpPoEXoEpPoUTpXoUpPpRXpRmHXITpXoIpPpETqXpEqPoATpXoApPoUOTqXpOqP",
    "oOTpXoOpPoEXoEpPmNGIEXpEqPoATpXoApPoUOTqXpOoOTpXoOpPoEXoEpPmHIToEXoEnAToXnAoPnUOTpXoOpPnOToXnOoPnEXnEoPmWAToXnA",
    "oPnUOXoOpPnOXnOoPnEXnEoPmZIToXnIoPoEXoEpPnAToXnAoPnUOXoOpPnOToXnOoPnEXnEoPnUToXnUoPoRXoRnYToXnYoPoRXoRmCIToXnIoP",
    "oETpXoEpPnAToXnAoPnUOXoOpPnOToXnOoPnEXnEoPnUToXnUoPoRXoRnYToXnYoPoRXoRmZZITpXoIpPpETqXpEqPoATpXoApPoOXoOpPoEXoE",
    "pPoUXoUpPpRXpRoYTpXoYpPpRXpRmNZITpXoIpPpEXpEqPoATpXoApPoUOXpOoOXpPoEXoEoUXoUpPpRXpRoYTpXoYpPpRXpRmSIToXnIoPoEXoE",
    "pPnAToXnAoPnUOXoOpPnOToXnOoPnEXnEoPnUToXnUoPoRXoRnYToXnYoPoRXoRnSITpXoIpPpEXpEqPoATpXoApPoOTpXoOpPoEXoEpPoUTpXoU",
    "pPoYTpXoYpPpRXpRmZHATpXoApPoUOXpOqPoOTpXoOpPoETpXoEpPoUTpXoUpPpRXpRoYTpXoYpPpRXpRmCHATpXoApPoUOTqXpOqPoOTpXoOpP",
    "oETpXoEpPoUXoUpPpRXpRoYTpXoYpPpRXpRmRRAXoAoUOXpOoOTpXoOpPoETpXoEpPoUTpXoUpPpRXpRoYTpXoYpPpRXpRmNRATpXoApPoOXoOpP",
    "oETpXoEpPoUTpXoUpPpRXpRoYTpXoYpPpRXpRmSHATpXoApPoUOXpOqPoOTpXoOpPoETpXoEpPoUTpXoUpPpRXpRoYTpXoYpPpRXpRmRAToXnAoP",
    "nUOXoOpPnOToXnOoPnEXnEoPnUToXnUoPoRXoRnYToXnYoPoRXoRmJIToXnIoPoETpXoEpPnUOTpXoOpPnOToXnOoPnUToXnUoPoRXoRnYToXnY",
    "oPoRXoRmQIToXnIoPoETpXoEpPnUOTpXoOpPnOToXnOoPnUToXnUoPoRXoRnYToXnYoPoRXoRmJJITpXoIpPpETqXpEqPoUOXpOqPoOTpXoOpP",
    "oUTpXoUpPpRXpRoYTpXoYpPmNJITpXoIpPpETqXpEqPoUOXpOoOTpXoOpPoUXoUpPpRXpRoYTpXoYpPpRXpRnYITpXoIpPpETqXpEqPoUOXpOqP",
    "oOTpXoOpPoUTpXoUpPmXIToXnIoPoETpXoEpPnUOXoOnOToXnOoPnYToXnYoPoRXoRmYIToXnIoPoETpXoEpPnUOTpXoOpPnOToXnOoPnUToXnU",
    "oPoRXoRnYToXnYoPoRXoR___dRADICAL QOTlLIlKITlNYIPlCYPlSSIlGGOPmEPlMIlHXITlLYRlBBUTlMOPlYOlPUTlHXUOlTATlGAlZUPlCYT",
    "lDDURl#BlGGUOlNYOPlTUlOPlJJUTlZOTlPYTlHMOlYITlVURlSHYlVEPlZAlJOlNZUPlJJYlGOTlJJIElWOlDUlSHURlLIElCYmUOPmIPlHXOP",
    "lSHATlZURlSHOPlCHElZZIETlNBIElKE"]),
  (0xA4D0, ["aLISU LETTER BAmPAnHAmDAmTAnHAmGAmKAnHAmJAmCAnHAmDZAmTSAoHAmMAmNAmLAmSAmZHAnAmNGAmHAmXAmHHAmFAmWAmSHA",
    "mYAmGHAmAnEmEnUmImOmUnEnHmOEmTONE MYA TIrNA POrMYA CYAvBOvNAvJEUfPUNCTUATION COMMArFULL STOPaVAI SYLLABLE EEpN",
    "nHEEn#WqNnPEEn#BHo#n$Mn#KPn#MGBn%n#Fn#Vn#To#Hn$Do$Hn#Ln#Rn#Dn$Nn#So#Hn#Zo#Hn#Cn#Jn$Nn#Yn#Kn#NGGn$n#Mn#No#YnIoN",
    "nHIpNnWIpNnPInBHIoIn#MnKPInMGBIn$nFInVInTIoHIn#Do#HnLInRInDIn#NnSIoHInZIoHInCInJIn#NnYInKInNGGIn#nMInNIoYInAoN",
    "n#NGnHApNnWApNnPAnBHAoAn#MnKPAqNnMGBAn$nFAnVAnTAoHAn#Do#HnLAnRAnDAn#NnSAoHAnZAoHAnCAnJAn#NnYAnKApNnNGGAn#nMAnNA",
    "oYAnOOpNnHOOn#WqNnPOOn#BHo#n$Mn#KPn#MGBn%n#Fn#Vn#To#Hn$Do$Hn#Ln#Rn#Dn$Nn#So#Hn#Zo#Hn#Cn#Jn$Nn#Yn#Kn#NGGn$n#Mn#N",
    "o#YnUoNnHUpNnWUpNnPUnBHUoUn#MnKPUnMGBUn$nFUnVUnTUoHUn#Do#HnLUnRUnDUn#NnSUoHUnZUoHUnCUnJUn#NnYUnKUnNGGUn#nMUnNU",
    "oYUnOoNn#NGnHOpNnWOpNnPOnBHOoOn#MnKPOnMGBOn$qNnFOnVOnTOoHOn#Do#HnLOnROnDOn#NnSOoHOnZOoHOnCOnJOn#NnYOnKOnNGGOn#",
    "nMOnNOoYOnEoNn#NGnHEpNnWEpNnPEnBHEoEn#MnKPEqNnMGBEn$qNnFEnVEnTEoHEn#Do#HnLEnREnDEn#NnSEoHEnZEoHEnCEnJEn#NnYEnKE",
    "nNGGErNnGEpNnMEnNEoYEoGnLENGTHENEReCOMMAeFULL STOPeQUESTION MARKeSYLLABLE NDOLE FAtKAtSOOgMBOL FEENGl%Kl#TIlNII",
    "lBANGlFAAl#TlDANGm#OOl#KUl#TOlDO-OlJONGeDIGIT ZEROkONEkTWOlHREEkFOURlIVEkSIXlEVENkEIGHTkNINEeSYLLABLE NDOLE MA",
    "tDO"]),
  (0xA640, ["aCYRILLIC CAPITAL LETTER ZEMLYAj=SMALjCAPITAL LETTER DZELOj<SMALjCAPITAL LETTER REVERSED DZEj^SMAL",
    "jCAPITAL LETTER IOTAj;SMALjCAPITAL LETTER DJERVj<SMALjCAPITAL LETTER MONOGRAPH UKj^SMAL",
    "jCAPITAL LETTER BROAD OMEGAj]SMALjCAPITAL LETTER NEUTRAL YERj]SMALj%CAPITAL LETTER YERU WITH BACKj|&SMAL",
    "jCAPITAL LETTER IOTIFIED YATj^SMALjCAPITAL LETTER REVERSED YUj]SMALjCAPITAL LETTER IOTIFIED Aj[SMAL",
    "jCAPITAL LETTER CLOSED LITTLE YUSj|%SMALj%CAPITAL LETTER BLENDEDj]SMALj%CAPITAL LETTER IOTIFIED CLOSED LITTLE",
    "j|;SMALjCAPITAL LETTER YNj.SMALjCAPITAL LETTER REVERSED TSEj^SMALjCAPITAL LETTER SOFT DEj>SMAL",
    "jCAPITAL LETTER SOFT ELj>SMALjCAPITAL LETTER SOFT EMj>SMALjCAPITAL LETTER MONOCULAR Oj]SMALj+CAPITAL LETTER BI",
    "j]SMALj+CAPITAL LETTER DOUBLE MOj|&SMALj*LETTER MULTIbOMBINING CYRILLIC VZMETtTEN MILLIONS SIGNt<HUNDRED",
    "t=THOUSANaSLAVONIC ASTERISKaCOMBINING CYRILLIC LETTER UKRAINIAN IEz Iz YIz Uz HARD SIGNz YERUz SOFT SIGNz OMEGA",
    "tKAVYKAtPAYEROKbYRILLIC KAVYKAjPAYEROKjCAPITAL LETTER DWEj:SMALj#CAPITAL LETTER DZj;SMALj#CAPITAL LETTER ZH",
    "j;SMALjCAPITAL LETTER CCHEj;SMALjCAPITAL LETTER DZZEj;SMALjCAPITAL LETTER TE WITH MIDDLE HOOKj|(SMAL",
    "jCAPITAL LETTER TWEj:SMALj#CAPITAL LETTER TSj;SMALjCAPITAL LETTER TSSEj;SMALjCAPITAL LETTER TCHEj;SMAL",
    "jCAPITAL LETTER HWEj:SMALj$CAPITAL LETTER Sj;SMALjCAPITAL LETTER DOUBLE Oj?SMALj#CAPITAL LETTER CROSSEDj@SMAL",
    "aMODIFIER LETTER CYRILLIC HARD SIGNz&SOFTaCOMBINING CYRILLIC LETTER EFz IOTIFIED EaBAMUM LETTER AnKAnUnKUnEEn#R",
    "nTAEnOnNYInInLAnPAnRIIpEEn#LEEn%MnTAAn#NDoJAEMnMnSUUnMUnSHIIoIoHEUXo$nKYEEoETnNUAEoUoJUAEnYOQnSHUnYUQoAnNSHA",
    "nKEUXn$PnNJEEo#TnPUEn#WnPEEn#FnRUnLUnMInNInREUXoAEnKENn#NGKWApGAo#nSHOnPUAEnFUoOMnWAnNAnLInPInLOQnKOnMBENn#Rn#M",
    "oAnTInKInMOoBAAnTETnKPAnTENnNTUUnSAMBAnFAAMAEnKOVUUpGHOMgCOMBINING MARK KOQNDONvTUKWENTISgNJAEMLIgFULL STOP",
    "gCOLONiMMAgSEMICOLONgQUESTION MARK________aMODIFIER LETTER CHINESE TONE YIN PINGzf&ANGzf#IN SHAzf(ANGzfIN QU",
    "zf$ANGzfIN RUzf$ANGqEXTRA-HIGH DOTTED TONE BARq]q>MIDq>LOWq[EXTRA-w+HIGH DOTTED LEFT-STEMq|*q|%MIDq|%LOW",
    "q|)EXTRA-w[HIGHq|Hq[MIDq[LOWq|EXTRA-q%DOT VERTICALuSLASHuHORIZONTAL BARqLOWER RIGHT CORNER ANGLEqRAISED UP ARROW",
    "x(DOWNxEXCLAMATION MARKu[ED INVERTq|%LOWqSTRESS AND HIGH TONEzc&LOWaLATIN CAPITAL LETTER EGYPTOLOGICAL ALEF",
    "g|&SMALgCAPITAL LETTER EGYPTOLOGICAL AINg|%SMALgCAPITAL LETTER HENGg;SMALgCAPITAL LETTER TZg.SMAL",
    "gCAPITAL LETTER TRESILLOg?SMALg%CAPITAL LETTER CUATRg@SMALgCAPITAL LETTER CUATRILLO WITH COMMAg|)SMAL",
    "gLETTER SMALL CAPITAL FzcSgCAPITAL LETTER AAg.SMALgCAPITAL LETTER AOg.SMALgCAPITAL LETTER AUg.SMAL",
    "gCAPITAL LETTER AVg.SMALgCAPITAL LETTER AV WITH HORIZONTAL BARg|+SMALgCAPITAL LETTER AYg.SMAL",
    "gCAPITAL LETTER REVERSED C WITH DOTg|(SMALgCAPITAL LETTER K WITH STROKEg|SMALg)CAPITAL LETTER K WITH DIAGONAL",
    "g|+SMALg>CAPITAL LETTER K WITH STROKE ANDg|]SMALgCAPITAL LETTER BROKEN Lg?SMALgCAPITAL LETTER L WITH HIGH STROKE",
    "g|&SMALgCAPITAL LETTER O WITH LONG STROKE OVERLAYg|;SMALgCAPITAL LETTER O WITH LOOPg]SMALgCAPITAL LETTER OO",
    "g.SMALgCAPITAL LETTER P WITH STROKE THROUGH DESCENDERg|@SMALgCAPITAL LETTER P WITH FLOURISHg|#SMAL",
    "gCAPITAL LETTER P WITH SQUIRREL TAILg|)SMALgCAPITAL LETTER Q WITH STROKE THROUGH DESCENDERg|@SMAL",
    "gCAPITAL LETTER Q WITH DIAGONAL STROKEg|+SMALgCAPITAL LETTER R ROTUNDAg@SMALg*CAPITAL LETTER RUMg]SMAL",
    "gCAPITAL LETTER V WITH DIAGONAL STROKEg|+SMALgCAPITAL LETTER VYg.SMALgCAPITAL LETTER VISIGOTHIC Zg^SMAL",
    "gCAPITAL LETTER THORN WITH STROKEg|%SMALgCAPITAL LETTER THORN WITH STROKE THROUGH DESCENDERg||SMAL",
    "gCAPITAL LETTER VENDg;SMALgCAPITAL LETTER ETg.SMALgCAPITAL LETTER ISg.SMALgCAPITAL LETTER CONg:SMAL",
    "aMODIFIER LETTER USaLATIN SMALL LETTER DUMt#Lt#Mt#Nt#Rg%LETTER SMALL CAPITALg#SMALL LETTER Tt#",
    "gCAPITAL LETTER INSULAR Dg@SMALgCAPITAL LETTER INSULAR Fg@SMALgCAPITAL LETTER INSULAR Gu, TURNEDg|$SMAL",
    "gCAPITAL LETTER TURNED Lg?SMALgCAPITAL LETTER INSULAR Rg@SMALgCAPITAL LETTER INSULAR Sg@SMAL",
    "gCAPITAL LETTER INSULAR Tg@SMALaMODIFIER LETTER LOW CIRCUMFLEX ACCENTqCOLONqSHORT EQUALS SIGN",
    "aLATIN CAPITAL LETTER SALTILLOg?SMALgCAPITAL LETTER TURNED HgSMALL LETTER L WITH RETROFLEX HOOK AND BELT",
    "gLETTER SINOLOGICAL DOTgCAPITAL LETTER N WITH DESCENDERg|$SMALgCAPITAL LETTER C WITH BARg[SMALz PALATAL HOOKt@H",
    "gCAPITAL LETTER B WITH FLOURISHg|#SMALgCAPITAL LETTER F WITH STROKEg|SMALgCAPITAL LETTER VOLAPUK AEg[SMAL",
    "gCAPITAL LETTER VOLAPUK OEg[SMALgCAPITAL LETTER VOLAPUK UEg[SMALgCAPITAL LETTER G WITH OBLIQUE STROKEg|*SMAL",
    "g]CAPITAL LETTER Kg|*SMALg]CAPITAL LETTER Ng|*SMALg]CAPITAL LETTER Rg|*SMALg]CAPITAL LETTER Sg|*SMAL",
    "gCAPITAL LETTER H WITH HOOKvREVERSED OPEN EvSCRIPT GvL WITH BELTvSMALL CAPITAL IgLETTER SMALL CAPITAL Q",
    "gCAPITAL LETTER TURNED KzdTvJ WITH CROSSED-TAILvCHIvBETAg;SMALgCAPITAL LETTER OMEGAg<SMAL",
    "gCAPITAL LETTER U WITH STROKEg|SMALgCAPITAL LETTER GLOTTAL Ag@SMALgCAPITAL LETTER GLOTTAL Ig@SMAL",
    "gCAPITAL LETTER GLOTTAL Ug@SMALgCAPITAL LETTER OLD POLISH Og^SMALgCAPITAL LETTER ANGLICANA Wg]SMAL",
    "gCAPITAL LETTER C WITH PALATAL HOOKv&S WITHv&Z WITH PALATALvD WITH SHORT STROKE OVERLAYg|<SMAL",
    "g|%CAPITAL LETTER Sg|<SMAL_____gCAPITAL LETTER CLOSED INSULAR Gg|$SMAL_tDOUBLE THORN_z WYNN",
    "gCAPITAL LETTER MIDDLE SCOTS Sg|SMALLg#CAPITAL LETTER SIGMOIDg@SMAL"]),
  (0xA7F2, ["aMODIFIER LETTER CAPITAL CyFyQaLATIN CAPITAL LETTER REVERSED HALF Hg|#SMALgEPIGRAPHIC LETTER SIDEWAYS I",
    "aMODIFIER LETTER CAPITAL H WITH STROKEqSMALL LIGATURE OEaLATIN LETTER SMALL CAPITAL TURNED M",
    "gEPIGRAPHIC LETTER REVERSED FziPyINVERTED Mz LONGAyARCHAIC MaSYLOTI NAGRI LETTER AuInSIGN DVISVARAnLETTER UuEuO",
    "nSIGN HASANTAnLETTER KOvHOuGOvHOnSIGN ANUSVARAnLETTER COvHOuJOvHOuTTOwHOuDDOwHOuTOvHOuDOvHOuNOuPOvHOuBOvHOuMOuRO",
    "uLOuRROuSOuHOnVOWEL SIGN AyIyUyEyOOnPOETRY MARK-1~~~nSIGN ALTERNATE HASANTA___aNORTH INDIC FRACTION ONE QUARTER",
    "zHALFvTHREE QUARTERSvONE SIXTEENTHz#EIGHvTHREE SIXTEENTHSmQUARTER MARKm)PLACEHOLDm&RUPEEm&QUANTITY______",
    "aPHAGS-PA LETTER KArHAqGAq#NqCArHAqJAqNYAqTArHAqDAqNAqPArHAqBAqMAqTSAsHAqDZAqWAqZHArAqSMALL AqYAqRAqLAqSHArAqHA",
    "qAqIqUqEqOqQAqXAqFAqGGAqEEjSUBJOINED LETTER WAz YAjLETTER TTAsHAqDDAqNNAqALTERNATE YAqVOICELESS SHAv#D ",
    "qASPIRATED FAjSUBJOINED LETTER RAl:PERFIXjLETTER CANDRABINDUjSINGLE HEAD MARKj:DOUBjMARK SHADn& DOUBLE________",
    "aSAURASHTRA SIGN ANUSVARAqVISARGAlLETTER AtAsItIsUtUsVOCALIC RzcRz LzcLsEtEsAIsOtOsAUsKAtHAsGAtHAsNGAsCAtHAsJA",
    "tHAsNYAsTTAuHAsDDAuHAsNNAsTAtHAsDAtHAsNAsPAtHAsBAtHAsMAsYAsRAsLAsVAsSHAtSAs#sHAsLLAlCONSONANT SIGN HAARU",
    "lVOWEL SIGN AAwIxIwUxUwVOCALIC RzgRzfLzgLwExEwAIwOxOwAUlSIGN VIRAMAqCANDRABINDU________lDANDAk( DOUBLEmIGIT ZERO",
    "rONErTWOsHREErFOURsIVErSIXsEVENrEIGHTrNINE______aCOMBINING DEVANAGARI DIGIT ZEROzcONEzcTWOzdHREEzcFOURzdIVEzcSIX",
    "zdEVENzcEIGHTzcNINEvLETTER AzdUzdKAzdNAzdPAzdRAzdVIvSIGN AVAGRAHAaDEVANAGARI SIGN SPACING CANDRABINDU",
    "qCANDRABINDU VIRAMAp[ DOUBLEqCANDRABINDU TWOzeHREEzdAVAGRAHAqPUSHPIKAlGAP FILLERlCARETlHEADSTROKElSIGN SIDDHAM",
    "lJAIN OMlLETTER AYl$VOWEL SIGNaKAYAH LI DIGIT ZEROpONEpTWOqHREEpFOURqIVEpSIXqEVENpEIGHTpNINEjLETTER KArHAqGAq#N",
    "qSArHAqZAqNYAqTAq#HqNAqPArHAqMAqDAqBAqRAqYAqLAqWAqTHAq#qVAqCAqAqOEqIqOOjVOWEL UEpEpUpEEpOjTONE PLOPHUoCALYA",
    "t PLOPHUjSIGN CWIoSHYAaREJANG LETTER KAoGAo#NoTAoDAoNAoPAoBAoMAoCAoJAoNYAoSAoRAoLAoYAoWAoHAoMBAoNGGApDApYJAoA",
    "hVOWEL SIGN IsUsEsAIsOsAUsEUtAhCONSONANT SIGN NGwNwRwHhVIRAMA"]),
  (0xA95F, ["aREJANG SECTION MARKaHANGUL CHOSEONG TIKEUT-MIEUMxPIEUPxSIOSxCIEUCqRIEUL-KIYEOKw(SSANGwTIKEUTw(SSANG",
    "wMIEUMwPIEUPw&SSANGw&KAPYEOUNwSIOSwCIEUCwKHIEUKHqMIEUM-KIYEOKwTIKEUTwSIOSqPIEUP-SIOS-THIEUTHwKHIEUKHwHIEUH",
    "qSSANGSIOS-PIEUPqIEUNG-RIEULwHIEUHq(SSANGCIEUCvTHIEUTHqPHIEUPH-HIEUHqHIEUH-SIOSqSSANGYEORINHIEUH___",
    "aJAVANESE SIGN PANYANGGAoCECAKoLAYARoWIGNYANjLETTER AqI KAWIqIrIqUqPA CEREKqNGA LELETz RASWADIqEqAIqOqKAs SASAK",
    "tMURDAqGAs MURDAqNGAqCAs MURDAqJAqNYA MURDAqJA MAHAPRANAqNYAqTTAt MAHAPRANAqDDAt MAHAPRANAqNA MURDAqTAs MURDAq#",
    "s MAHAPRANAq#qPAs MURDAqBAs MURDAqMAqYAqRAs AGUNGqLAqWAqSA MURDAuAHAPRANArAqHAjSIGN CECAK TELUjVOWEL SIGN TARUNG",
    "v#OLOuWULUy MELIKuSUKUy MENDUTuTALINGuDIRGA MUREuPEPETj#CONSONANT SIGN KERyPENGKALyCAKRAjPANGKONjLEFT RERENGGAN",
    "j.RIGHjPADA ANDAPoMADYAoLUHURoWINDUoPANGKAToLINGSApUNGSIoADEGs ADEGoPISELEHi; TURNED_jPANGRANGKEPjDIGIT ZEROpONE",
    "pTWOqHREEpFOURqIVEpSIXqEVENpEIGHTpNINE____jPADA TIRTA TUMETESoISEN-ISENaMYANMAR LETTER SHAN GHAu#Cu#JuNNAuBHA",
    "iSIGN SHAN SAWiMODIFIER LETTER SHAN REDUPLICATIONiLETTER TAI LAING NYAzFAzGAzGHAzJAzJHAzDDAzcHAzNNA",
    "iTAI LAING DIGIT ZEROyONEyTWOzHREEyFOURzIVEySIXzEVENyEIGHTyNINEiLETTER TAI LAING LLAzDAzDHAzBAzBHA_",
    "aCHAM LETTER AmImUmEmAImOmKAnHAmGAnHAmNGUEoAmCHAn#HmJAnHAmNHUEoAoJAmTAnHAmDAnHAmNUEnAmDDAmPAm#PnHAmBAnHAmMUEnA",
    "mBBAmYAmRAmLAmVAmSSAm#mHAfVOWEL SIGN AAqIrIqEIqUqOEqOqAIrUqUEfCONSONANT SIGN YAuRAuLAuWA"]),
  (0xAA40, ["aCHAM LETTER FINAL KsGsNGf+CONSONANT SIGNfLETTER FINAL CHsTsNsPsYsRsLsSSfCONSONANT SIGN FINAL Mz H__",
    "fDIGIT ZEROlONElTWOmHREElFOURmIVElSIXmEVENlEIGHTlNINE__fPUNCTUATION SPIRALrDANDAq( DOUBLEr*TRIP",
    "aMYANMAR LETTER KHAMTI GAwCAxHAwJAxHAwNYAwTTAyHAwDDAyHAw$wNAwSAwHAw#HwFAiMODIFIER LETTER KHAMTI REDUPLICATION",
    "iLETTER KHAMTI XAwZAwRAjOGOGRAM KHAMTI OAYyQNyHMiSYMBOL AITON EXCLAMATIONvONEvTWOiLETTER AITON RA",
    "iSIGN PAO KAREN TONEnTAI LAING TONE-2zd5iLETTER SHWE PALAUNG CHAzd#SaTAI VIET LETTER LOW KOq$HIGHqLOW KHOq%HIGH",
    "q#LOW KHq&HIGHqLOW GOq$HIGHq#LOW Nq%HIGHqLOW COq$HIGHqLOW CHOq%HIGHqLOW SOq$HIGHqLOW NYOq%HIGHqLOW DOq$HIGH",
    "qLOW TOq$HIGHqLOW THOq%HIGHqLOW NOq$HIGHqLOW BOq$HIGHqLOW POq$HIGHqLOW PHOq%HIGHqLOW FOq$HIGHqLOW MOq$HIGH",
    "qLOW YOq$HIGHqLOW ROq$HIGHqLOW LOq$HIGHqLOW VOq$HIGHqLOW HOq$HIGHqLOW Oq#HIGHjMAI KANGjVOWEL AApIpUEpUpEpO",
    "jMAI KHITjVOWEL IApUEAqApAUEqYqNqMjTONE MAI EKsNUENGsTHOsSONG"]),
  (0xAADB, ["aTAI VIET SYMBOL KONqNUENGqSAMqHO HOIq#KOI KaMEETEI MAYEK LETTER EuOuCHAuNYAuTTAwHAuDDAwHAuNNAuSHAvSA",
    "nVOWEL SIGN IIyUUyAAIzUy#AnCHEIKHANnAHANG KHUDAMoNJInSYLLABLE REPETITION MARKn>WORDnVOWEL SIGN VISARGAoIRAMA"]),
  (0xAB01, ["aETHIOPIC SYLLABLE TTHUvIvAAvEEvEvO__sDDHUvIvAAvEEvEvO__tZUuIuAAuEEuEuO"]),
  (0xAB20, ["aETHIOPIC SYLLABLE CCHHAwUwIwAAwEEwEwO_sBBAuUuIuAAuEEuEuO_aLATIN SMALL LETTER BARRED ALPHA",
    "tA REVERSED-SCHWAtBLACKLETTER Eu#ARREDtE WITH FLOURISHtLENIS FtSCRIPT G WITH CROSSED-TAILtL WITH INVERTED LAZY S",
    "z DOUBLE MIDDLE TILDEz MIDDLE RINGtM WITH CROSSED-TAILt@Nt@ENGtBLACKLETTER Ozh WITH STROKEt<OPENtINVERTED OE",
    "tTURNED OE WITH STROKEzi) HORIZONTALzc OPEN-Ozj WITH STROKEtSTIRRUP RgLETTER SMALL CAPITAL R WITH RIGHT LEG",
    "gSMALL LETTER R WITHOUT HANDLEtDOUBLE RtR WITH CROSSED-TAILs] DOUBLEtSCRIPT Rzc WITH RINGtBASELINE ESH",
    "tU WITH SHORT RIGHT LEGu^ BARuIs$ TURNEDtU WITH LEFT HOOKtCHIw WITH LOW RIGHT RINGzhLEFT SERIF",
    "tX WITH LOW RIGHT RINGzdNG LEFT LEGzo AND LOW RIGHT RINGzpWITH SERIFtY WITH SHORT RIGHT LEG",
    "aMODIFIER BREVE WITH INVERTED BREVEjLETTER SMALL HENGwL WITH INVERTED LAZY SzeMIDDLE TILDEwU WITH LEFT HOOK",
    "aLATIN SMALL LETTER SAKHA YATtIOTIFIED EtOPEN OEtUOtINVERTED ALPHAaGREEK LETTER SMALL CAPITAL OMEGA",
    "aLATIN SMALL LETTER DZ DIGRAPH WITH RETROFLEX HOOKt|(TSuURNED R WITH MIDDLE TILDEaMODIFIER LETTER SMALL TURNED W",
    "qLEFT TACKq(RIGH____aCHEROKEE SMALL LETTER AwEwIwOwU~wGAwKAwGExIxOxU~wHAxExIxOxU~wLAxExIxOxU~wMAxExIxOxUwNAw#H",
    "wNAHxExIxOxU~wQUAyEyIyOyU~wSAwSxExIxOxU~wDAwTAwDEwTEwDIwTIwDOxU~xLAw#TyEyIyOyU~xSAyEyIyOyU~wWAxExIxOxU~wYA",
    "aMEETEI MAYEK LETTER KOKuSAMuLAIuMITuPAuNAuCHILu#TuKHOUu#NGu#THuWAIuYANGuHUKuUNuIuPHAMuATIYAuGOKuJHAMuRAIuBAuJIL",
    "u#DuGHOUu$DuBHAMuKOK LONSUMu)LAIu)MITu)PAu*Nu)TILu)NGOUu)InVOWEL SIGN ONAPy$Iy$Ay$YEy$SOUy%y$CHEIyNUNGnCHEIKHEI",
    "nLUM IYEKn&APUN__nDIGIT ZEROtONEtTWOuHREEtFOURuIVEtSIXuEVENtEIGHTtNINE"]),
  (0xD7B0, ["aHANGUL JUNGSEONG O-YEOtO-IrYO-AvEuEOr#U-YtI-IrYU-AEuOrEU-AuEOuEuOr#I-YAvEuEOuEtO-ItYOuUtIrARAEA-AxE___",
    "_iONGSEONG NIEUN-RIEULxCHIEUCHrSSANGTIKEUTzd-PIEUPr:ySIOSzd-KIYEOKyCIEUCzHIEUCHyTHIEUTHrRIEUL-SSANGKIYEOK",
    "xKIYEOK-HIEUHrSSANGRIEUL-KHIEUKHrRIEUL-MIEUM-HIEUHxPIEUP-TIKEUTzePHIEUPHxYESIEUNGzORINHIEUH-HIEUHrKAPYEOUNRIEUL",
    "rMIEUM-NIEUNx&SSANGrSSANGMIEUMrMIEUM-PIEUP-SIOSxCIEUCrPIEUP-TIKEUTxRIEUL-PHIEUPHxMIEUMrSSANGPIEUP",
    "rPIEUP-SIOS-TIKEUTxCIEUCyHIEUCHrSIOS-MIEUMwKAPYEOUNPIEUPsSANGSIOS-KIYEOKzcTIKEUTsIOS-PANSIOSwCIEUCxHIEUCH",
    "wTHIEUTHwHIEUHrPANSIOS-PIEUPz&KAPYEOUNrYESIEUNG-MIEUMz-HIEUHrCIEUC-PIEUPx&SSANGrSSANGCIEUCrPHIEUPH-SIOSzTHIEUTH"]),
  (0xFB00, ["aLATIN SMALL LIGATURE FFwIwLwFIxLvLONG S TvST"]),
  (0xFB13, ["aARMENIAN SMALL LIGATURE MEN NOWzdECHzdINIyVEW NOWyMEN XEH_____aHEBREW LETTER YOD WITH HIRIQ",
    "hPOINT JUDEO-SPANISH VARIKAhLIGATURE YIDDISH YOD YOD PATAHiETTER ALTERNATIVE AYINoWIDE ALEFtDALETtHEtKAFtLAMED",
    "tFINAL MEMtRESHtTAVoALTERNATIVE PLUS SIGNoSHIN WITH SHIN DOTz(y(DAGESH AND SHzl(oALEF WITH PATAHyQAMATSyMAPIQ",
    "oBET WITH DAGESHo:GIMELo:DALEToHE WITH MAPIQoVAV WITH DAGESHo:ZAYIN_o:TETo:YODo:FINAL KAFn>o:LAMED_o:MEM_o:NUN",
    "o:SAMEKH_o:FINAL PEn=_o:TSADIo:QOFo:RESHo:SHINo:TAVoVAV WITH HOLAMoBET WITH RAFEo,KAFo,PEiIGATURE ALEF LAMED",
    "aARABIC LETTER ALEF WASLA ISOLATED FORMz&FINALo&BEEH ISOLATEDt&FINALt)INITIt*MEDo&PEH ISOLATEDs&FINALs)INITI",
    "s*MEDo&BEHEH ISOLATEDu&FINALu)INITIu*MEDo&TTEHEH ISOLATEDv&FINALv)INITIv*MEDp&EHEH ISOLATEDu&FINALu)INITIu*MED",
    "p&TEH ISOLATEDt&FINALt)INITIt*MEDo&VEH ISOLATEDs&FINALs)INITIs*MEDo&PEHEH ISOLATEDu&FINALu)INITIu*MED",
    "o&DYEH ISOLATEDt&FINALt)INITIt*MEDo&NYEH ISOLATEDt&FINALt)INITIt*MEDo&TCHEH ISOLATEDu&FINALu)INITIu*MED",
    "t&EH ISOLATEDw&FINALw)INITIw*MEDo&DDAHAL ISOLATEDv&FINALp&AHAL ISOLATEDu&FINALp&UL ISOLATEDs&FINALp&DAL ISOLATED",
    "t&FINALo&JEH ISOLATEDs&FINALo&RREH ISOLATEDt&FINALo&KEHEH ISOLATEDu&FINALu)INITIu*MEDo&GAF ISOLATEDs&FINAL",
    "s)INITIs*MEDp&UEH ISOLATEDt&FINALt)INITIt*MEDo&NGOEH ISOLATEDu&FINALu)INITIu*MEDp&OON GHUNNA ISOLATEDz& FINAL",
    "o&RNOON ISOLATEDu&FINALu)INITIu*MEDo&HEH WITH YEH ABOVE ISOLATEDzi&FINALs&GOAL ISOLATEDx&FINALx)INITIx*MED",
    "s&DOACHASHMEE ISOLATEDzf&FINALzf)INITIzf*MEDo&YEH BARREE ISOLATEDz&FINALz&WITH HAMZA ABOVE ISOLATEDzr&FINAL",
    "hSYMBOL DOT ABOVEsBELOWoTWO DOTS ABOVExBELOWpHREE DOTS ABOVEzBELOWzPOINTING DOWNWARDS ABOVEztBELOW",
    "oFOUR DOTS ABOVEyBELOWo(DOUBLE VERTICAL BARoTWO DOTS VERTICALLY ABOVEzjBELOWoRINGoSMALL TAH ABOVEyBELOW",
    "oWASLA ABOVE"]),
  (0xFBD3, ["aARABIC LETTER NG ISOLATED FORMr&FINALr)INITIr*MEDo&U ISOLATEDq&FINALo&OE ISOLATEDr&FINALo&YU ISOLATED",
    "r&FINALo&U WITH HAMZA ABOVE ISOLATEDo>r&FINALo&KIRGHIZ OE ISOLATEDz&FINALw&YU ISOLATEDz&FINALo&E ISOLATEDq&FINAL",
    "q)INITIq*MEDo*UIGHUR KAZAKH KIRGHIZ ALEF MAKSURA INITzy*MEDi&IGATURE YEH WITH HAMZA ABOVE WITH ALEF ISOLATED",
    "zw&FINALzs&E ISOLATEDzu&FINALzr&WAW ISOLATEDzv&FINALzr&U ISOLATEDzt&FINALzr&OE ISOLATEDzu&FINALzr&YU ISOLATED",
    "zu&FINALzr&E ISOLATEDzt&FINALzt)INITIq&UIGHUR KIRGHIZ YEH WITH HAMZA ABOVE WITH ALEF MAKSURA ISOLATEDzzu&FINAL",
    "zzu)INITIi&ETTER FARSI YEH ISOLATEDy&FINALy)INITIy*MEDi&IGATURE YEH WITH HAMZA ABOVE WITH JEEM ISOLATEDzr<HAH",
    "zr<MEEMzr<ALEF MAKSURAzr<YEHq<BEH WITH JEEMz<HAHz?Kz<MEEMz<ALEF MAKSURAz<YEHq<TEH WITH JEEMz<HAHz?Kz<MEEM",
    "z<ALEF MAKSURAz<YEHr<HEH WITH JEEMz? Mz< ALEF MAKSURAz< YEHq=JEEM WITH HAz< MEEMq?HAH WITH Jz?Mq?KHAH WITH J",
    "z< HAHz< MEEMq?SEEN WITH Jz< HAHz? Kz< MEEMr<AD WITH HAHz<MEEMq?DAD WITH Jz<HAHz?Kz<MEEMq<TAH WITH HAHz<MEEMq|%Z",
    "q?AIN WITH Jz?Mq?GHAIN WITH Jzc?Mq?FEH WITH Jz<HAHz?Kz<MEEMz<ALEF MAKSURAz<YEHq=QAF WITH HAz<MEEMz<ALEF MAKSURA",
    "z<YEHq<KAF WITH ALEFz<JEEMz<HAHz?Kz<LAMz=MEEz<ALEF MAKSURAz<YEHq<LAM WITH JEEMz<HAHz?Kz<MEEMz<ALEF MAKSURAz<YEH",
    "q<MEEM WITH JEEMz< HAHz? Kz< MEEMz< ALEF MAKSURAz< YEHq<NOON WITH JEEMz< HAHz? Kz< MEEMz< ALEF MAKSURAz< YEH",
    "q<HEH WITH JEEMz?Mz<ALEF MAKSURAz<YEHq<YEH WITH JEEMz<HAHz?Kz<MEEMz<ALEF MAKSURAz<YEH",
    "q<THAL WITH SUPERSCRIPT ALEFq|<REHq|<ALEF MAKSURAq<SHADDA WITH DAMMATANzd@KASRzd<FATHAzd=DAMMzd=KASR",
    "zd<SUPERSCRIPT ALEFq&YEH WITH HAMZA ABOVE WITH REH FINALzr.ZAINzr.MEEMzr.NOONzr.ALEF MAKSURAzr.YEHq;BEH WITH R",
    "z.ZAINz.MEEMz.NOONz.ALEF MAKSURAz.YEHq;TEH WITH Rz.ZAINz.MEEMz.NOONz.ALEF MAKSURAz.YEHr;HEH WITH Rz. ZAINz. MEEM",
    "z. NOONz. ALEF MAKSURAz. YEHq.FEH WITH ALEF MAKSURAz.YEHq.QAF WITH ALEF MAKSURAz.YEHq.KAF WITH ALEFz.LAMz:MEE",
    "z.ALEF MAKSURAz.YEHq.LAM WITH MEEMz.ALEF MAKSURAz.YEHq.MEEM WITH ALEFz. MEEMq.NOON WITH REHz. ZAINz. MEEMz. NOON",
    "z. ALEF MAKSURAz. YEHq.ALEF MAKSURA WITH SUPERSCRIPT ALEFq.YEH WITH REHz.ZAINz.MEEMz.NOONz.ALEF MAKSURAz.YEH",
    "z)HAMZA ABOVE WITH JEEM INITIzr;HAHzr>Kzr;MEEMzr;HEHq;BEH WITH JEEMz;HAHz>Kz;MEEMz;HEHq;TEH WITH JEEMz;HAHz>K",
    "z;MEEMz;HEHr;HEH WITH MEEMq;JEEM WITH HAHz; MEEMq>HAH WITH Jz>Mq>KHAH WITH Jz> Mq>SEEN WITH Jz; HAHz> Kz; MEEM",
    "r;AD WITH HAHz>Kz;MEEMq>DAD WITH Jz;HAHz>Kz;MEEMq;TAH WITH HAHq;ZAH WITH MEEMq>AIN WITH Jz>Mq>GHAIN WITH Jzc>M",
    "q>FEH WITH Jz;HAHz>Kz;MEEMq;QAF WITH HAHz;MEEMq>KAF WITH Jz;HAHz>Kz;LAMz<MEEq>LAM WITH Jz;HAHz>Kz;MEEMz;HEH",
    "q;MEEM WITH JEEMz; HAHz> Kz; MEEMq>NOON WITH Jz; HAHz> Kz; MEEMz; HEHq;HEH WITH JEEMz>Mz;SUPERSCRIPT ALEF",
    "q;YEH WITH JEEMz;HAHz>Kz;MEEMz;HEHz*HAMZA ABOVE WITH MEEM MEDzr:HEHq:BEH WITH MEEMz:HEHq:TEH WITH MEEMz:HEH",
    "r:HEH WITH MEEMz: HEHq:SEEN WITH MEEMz: HEHr:HEEN WITH MEEMzc:HEHq:KAF WITH LAMz;MEEq|LAMq|NOONz: HEH",
    "q:YEH WITH MEEMz:HEHq:SHADDA WITH FATHAzd;DAMMzd;KASRq&TAH WITH ALEF MAKSURA ISOLATEDz<YEH",
    "q<AIN WITH ALEF MAKSURAz<YEHq<GHAIN WITH ALEF MAKSURAzc<YEHq<SEEN WITH ALEF MAKSURAz< YEH",
    "r<HEEN WITH ALEF MAKSURAzc<YEHq<HAH WITH ALEF MAKSURAz<YEHq<JEEM WITH ALEF MAKSURAz< YEHq<KHAH WITH ALEF MAKSURA",
    "z< YEHq<SAD WITH ALEF MAKSURAz<YEHq<DAD WITH ALEF MAKSURAz<YEHq<SHEEN WITH JEEMzc<HAHzc?Kzc<MEEMzc<REHr|%r|AD ",
    "q|$Dq&TAH WITH ALEF MAKSURA FINALz.YEHq.AIN WITH ALEF MAKSURAz.YEHq.GHAIN WITH ALEF MAKSURAzc.YEH",
    "q.SEEN WITH ALEF MAKSURAz. YEHr.HEEN WITH ALEF MAKSURAzc.YEHq.HAH WITH ALEF MAKSURAz.YEHq.JEEM WITH ALEF MAKSURA",
    "z. YEHq.KHAH WITH ALEF MAKSURAz. YEHq.SAD WITH ALEF MAKSURAz.YEHq.DAD WITH ALEF MAKSURAz.YEHq.SHEEN WITH JEEM",
    "zc.HAHzc<Kzc.MEEMzc.REHr|Er]ADq|Dq)SHEEN WITH JEEM INITIzc;HAHzc>Kzc;MEEMr;EEN WITH HEHr|$Hq;TAH WITH MEEM",
    "q*SEEN WITH JEEM MEDz: HAHz= Kr:HEEN WITH JEEMzc:HAHzc=Kq:TAH WITH MEEMq|#Zq)ALEF WITH FATHATAN FINzk&ISOLATED",
    "aORNATE LEFT PARENTHESISh;RIGHaARABIC LIGATURE RAHIMAHU ALLAAHsDI ALLAAHU ANHzhAAzhUMzjAAziNNA",
    "qSALLALLAAHU ALAYHI WA-AALIHqALAYHI AS-SALAAMw,Mx,AAw+ AS-SALAATU WqQUDDISA SIRRAH",
    "qSALLALLAHU ALAYHI WAAALIHEE WA-SALLAMq#ALAYHAA AS-SALAqTABAARAKA WA-TAAALAAqRAHIMAHUM ALLAAH",
    "qTEH WITH JEEM WITH MEEM INITIAL FORMz)HAH WITH JEEM FINzo)INITIzj>Mz|%Kz>MEEM WITH Jzk;HAHzk>K",
    "q)JEEM WITH MEEM WITH HAH FINzp)INITIq)HAH WITH MEEM WITH YEH FINzk.ALEF MAKSURAq)SEEN WITH HAH WITH JEEM INITI",
    "z; JEEM WITH HAHzl)ALEF MAKSURA FINz. MEEM WITH HAHzp)INITIzl;JEEMzl)MEEM FINzq)INITIr)AD WITH HAH WITH HAH FIN",
    "zn)INITIz)MEEM WITH MEEM FINr^HEEN WITH HAHzq)INITIzc)JEEM WITH YEH FINzc:MEEM WITH KHAzr)INITIzm)MEEM FIN",
    "zr)INITIq)DAD WITH HAH WITH ALEF MAKSURA FINz.KHAH WITH MEEMzp)INITIq)TAH WITH MEEM WITH HAH FINzo)INITIzk;MEEM",
    "zk)YEH FINq.AIN WITH JEEM WITH MEEMz|#Mzp)INITIzk)ALEF MAKSURA FINq.GHAIN WITH MEEM WITH MEEMzm.YEH",
    "zm.ALEF MAKSURAq.FEH WITH KHAH WITH MEEMzp)INITIq)QAF WITH MEEM WITH HAH FINzk.MEEMq^LAM WITH HAHzj.YEH",
    "zj.ALEF MAKSURAz)JEEM WITH JEEM INITIzp)FINz<KHAH WITH Mzp)INITIz)MEEM WITH HAH FINzo)INITI",
    "q;MEEM WITH HAH WITH JEEMzk>Mzk)YEH FINz) JEEM WITH HAH INITIzl;MEEMz> KHAH WITH Jzl>M__z; JEEM WITH KHAH",
    "q;HEH WITH MEEM WITH JEEMzk>Mq|NOON WITH HAH zk)ALEF MAKSURA FINz. JEEM WITH MEEMzq)INITIzl)ALEF MAKSURA FIN",
    "z. MEEM WITH YEHzl.ALEF MAKSURAq.YEH WITH MEEM WITH MEEMzp)INITIq)BEH WITH KHAH WITH YEH FINq]TEH WITH JEEM",
    "zk.ALEF MAKSURAz.KHAH WITH YEHzk.ALEF MAKSURAz.MEEM WITH YEHzk.ALEF MAKSURAq.JEEM WITH MEEM WITH YEH",
    "z. HAH WITH ALEF MAKSURAz|) MEEMq|)SEEN WITH KHAHr.AD WITH HAH WITH YEHr|)HEENq|)DADq]LAM WITH JEEMz|ME",
    "q]YEH WITH HAHz]JEEMz|MEq|*MEEMq|*QAFq]NOON WITH HAHq)QAF WITH MEEM WITH HAH INITIq;LAM WITH HAH WITH MEEM",
    "q)AIN WITH MEEM WITH YEH FINq|*KAFq)NOON WITH JEEM WITH HAH INITIq)MEEM WITH KHAH WITH YEH FIN",
    "q)LAM WITH JEEM WITH MEEM INITIq)KAF WITH MEEM WITH MEEM FINq|#LAM WITH Jq.NOON WITH JEEM WITH HAH",
    "q:JEEM WITH HAH WITH YEq]HAH WITH JEEMq|*MEEMq|FEH WITH MEq]BEH WITH HAHq)KAF WITH MEEM WITH MEEM INITI",
    "q|%AIN WITH Jq|%SAD WITH Mr)EEN WITH KHAH WITH YEH FINq]NOON WITH JEEM_______qSALAAMUHU ALAYNAA"]),
  (0xFDF0, ["aARABIC LIGATURE SALLA USED AS KORANIC STOP SIGN ISOLATED FORMq|]QAq<ALLAHr<KBARq<MOHAMMADq<SALAM",
    "q<RASOULq<ALAYHEq<WASALLAMq<SALLAvLLAHOU ALAYHE WASALLAMqJALLAJALALOUHOUaRIAL SIGN",
    "aARABIC LIGATURE BISMILLAH AR-RAHMAN AR-RAHEEMqSUBHAANAHU WA TAAALAAqAZZA WA JALLaVARIATION SELECTOR-1~~~~~~~~",
    "t10~~~~~~aPRESENTATION FORM FOR VERTICAL COMMAzf( IDEOGRAPHICzsFULL STOPzgCOLONzg&SEMIzgEXCLAMATION MARKzg+QUES",
    "zgLEFT WHITE LENTICULAR BRACKETzg#RIGHT WHITE LENTICULAR BRAKCzgHORIZONTAL ELLIPSIS______",
    "aCOMBINING LIGATURE LEFT HALFt(RIGHk(DOUBLE TILDE LEFx(RIGHk(MACRON LEFr(RIGHkCONJOINING MACRON",
    "kLIGATURE LEFT HALF BELOWt:RIGHk:TILDE LEFq:RIGHk:MACRON LEFr:RIGHk(CONJOINING MACRONlYRILLIC TITLO LEFT HALF",
    "z(RIGHaPRESENTATION FORM FOR VERTICAL TWO DOT LEADERzgEM DASHzh&NzgLOW LINEzf+ WAVYzgLEFT PARENTHESISzg;RIGH",
    "zgLEFT CURLY BRACKETzg=RIGHzg*LEFT TORTOISE SHELLzg|#RIGHzg*LEFT BLACK LENTICULARzg|%RIGHzg*LEFT DOUBLE ANGLE",
    "zg|RIGHzg<LEFTzg=RIGHzg*LEFT CORNERzg>RIGHzg=LEFT WHITEzg|RIGHaSESAME DOTa,WHITE ",
    "aPRESENTATION FORM FOR VERTICAL LEFT SQUARE BRACKETzg>RIGHaDASHED OVERLINEa+CENTRELINEa+WAVYa;DOUBLE ",
    "b%ASHED LOW a+CENTRELINEa+WAVYaSMALL COMMAf( IDEOGRAPHICgFULL STOP_gSEMICOLONg&gQUESTION MARKg+EXCLAMAhM DASH",
    "gLEFT PARENTHESISg;RIGHgLEFT CURLY BRACKETg=RIGHg*LEFT TORTOISE SHELLg|#RIGHgNUMBER SIGNgAMPERSANDhSTERISK",
    "gPLUS SIGNgHYPHEN-MINUSgLESS-THAN SIGNg,GREATERg&EQUALS_gREVERSE SOLIDUSgDOLLAR SIGNg&PERCENTgCOMMERCIAL AT____",
    "aARABIC FATHATAN ISOLATED FORMhTATWEEL WITH FATHATAN ABOVEhDAMMATAN ISOLATED FORMhTAIL FRAGMENT",
    "hKASRATAN ISOLATED FORM_h<FATHAn&MEDIALh&DAMMA ISOLATEDn&MEDIALh&KASRA ISOLATEDn&MEDIALh&SHADDA ISOLATEDo&MEDIAL",
    "i&UKUN ISOLATEDn&MEDIALh&LETTER HAMZA ISOLATEDo<ALEF WITH MADDA ABOVEzl&FINALy&HAMZA ABOVE ISOLATEDzl&FINAL",
    "o&WAW WITH HAMZA ABOVE ISOLATEDzk&FINALo&ALEF WITH HAMZA BELOW ISOLATEDzl&FINALo&YEH WITH HAMZA ABOVE ISOLATED",
    "zk&FINALzk)INITIzk*MEDo&ALEF ISOLATEDt&FINALo&BEH ISOLATEDs&FINALs)INITIs*MEDo&TEH MARBUTA ISOLATEDz& FINAL",
    "s&ISOLATEDs&FINALs)INITIs*MEDp&HEH ISOLATEDt&FINALt)INITIt*MEDo&JEEM ISOLATEDt&FINALt)INITIt*MEDo&HAH ISOLATED",
    "s&FINALs)INITIs*MEDo&KHAH ISOLATEDt&FINALt)INITIt*MEDo&DAL ISOLATEDs&FINALo&THAL ISOLATEDt&FINALo&REH ISOLATED",
    "s&FINALo&ZAIN ISOLATEDt&FINALo&SEEN ISOLATEDt&FINALt)INITIt*MEDp&HEEN ISOLATEDu&FINALu)INITIu*MEDp&AD ISOLATED",
    "s&FINALs)INITIs*MEDo&DAD ISOLATEDs&FINALs)INITIs*MEDo&TAH ISOLATEDs&FINALs)INITIs*MEDo&ZAH ISOLATEDs&FINAL",
    "s)INITIs*MEDo&AIN ISOLATEDs&FINALs)INITIs*MEDo&GHAIN ISOLATEDu&FINALu)INITIu*MEDo&FEH ISOLATEDs&FINALs)INITI",
    "s*MEDo&QAF ISOLATEDs&FINALs)INITIs*MEDo&KAF ISOLATEDs&FINALs)INITIs*MEDo&LAM ISOLATEDs&FINALs)INITIs*MED",
    "o&MEEM ISOLATEDt&FINALt)INITIt*MEDo&NOON ISOLATEDt&FINALt)INITIt*MEDo&HEH ISOLATEDs&FINALs)INITIs*MED",
    "o&WAW ISOLATEDs&FINALo&ALEF MAKSURA ISOLATEDzc&FINALo&YEH ISOLATEDs&FINALs)INITIs*MED",
    "i&IGATURE LAM WITH ALEF WITH MADDA ABOVE ISOLATEDzw&FINALzk&HAMZA ABOVE ISOLATEDzw&FINALzq&BELOW ISOLATED",
    "zw&FINALzf&ISOLATEDzf&FINAL__aZERO WIDTH NO-BREAK SPACE_aFULLWIDTH EXCLAMATION MARKk,QUOTkNUMBER SIGNk(DOLLA",
    "k&PERCENTkAMPERSANDlPOSTROPHEkLEFT PARENTHESISk;RIGHkASTERISKkPLUS SIGNkCOMMAkHYPHEN-MINUSkFULL STOPkSOLIDUS",
    "kDIGIT ZEROqONEqTWOrHREEqFOURrIVEqSIXrEVENqEIGHTqNINEkCOLONk&SEMIkLESS-THAN SIGNk&EQUALSk&GREATER-THAN",
    "kQUESTION MARKkCOMMERCIAL ATkLATIN CAPITAL LETTER A~~~~~~~~~~~~~~~~~~~~~~~~~lEFT SQUARE BRACKETkREVERSE SOLIDUS",
    "lIGHT SQUARE BRACKETkCIRCUMFLEX ACCENTkLOW LINEkGRAVE ACCENTkLATIN SMALL LETTER A~~~~~~~~~~~~~~~~~~~~~~~~~",
    "lEFT CURLY BRACKETkVERTICAL LINEkRIGHT CURLY BRACKETkTILDEkLEFT WHITE PARENTHESISk[RIGH",
    "aHALFWIDTH IDEOGRAPHIC FULL STOPkLEFT CORNER BRACKETk>RIGHkIDEOGRAPHIC COMMAkKATAKANA MIDDLE DOTtLETTER WO",
    "z SMALL AzhIzhUzhEzhOzhYAziUziOzhTUs-HIRAGANA PROLONGED SOUND MARKs LETTER Az Iz Uz Ez Oz KAzcIzcUzcEzcOz SAzcI",
    "zcUzcEzcOz TAzcIzcUzcEzcOz NAzcIzcUzcEzcOz HAzcIzcUzcEzcOz MAzcIzcUzcEzcOz YAzcUzcOz RAzcIzcUzcEzcOz WAz N",
    "tVOICED SOUND MARKt?SEMI-kHANGUL FILLERrLETTER KIYEOKy(SSANGyKIYEOK-SIOSyNIEUNze-CIEUCzfHIEUHyTIKEUTy(SSANG",
    "yRIEULze-KIYEOKzfMIEUMzfPIEUPzfSIOSzfTHIEUTHzfPHIEUPHzfHIEUHyMIEUMyPIEUPy&SSANGyPIEUP-SIOSy%y%SSANGyIEUNGyCIEUC",
    "y&SSANGyCHIEUCHyKHIEUKHyTHIEUTHyPHIEUPHyHIEUH___yAzEyYAzAEyEOyE__yYEOzEyOyWAzAEyOE__yYOyUyWEOzEzIyYU__yEUyYIyI__",
    "_aFULLWIDTH CENT SIGNk&POUNDk&NOTkMACRONkBROKEN BARkYEN SIGNk(WO_aHALFWIDTH FORMS LIGHT VERTICALkLEFTWARDS ARROW",
    "k.UPk.RIGHTk.DOWNkBLACK SQUAREkWHITE CIRCLE"]),
  (0xFFF9, ["aINTERLINEAR ANNOTATION ANCHORx#SEPARATx%TERMINaOBJECT REPLACEMENT CHARACTERa^"])]

end FlowSketch.TextNameSyllables
